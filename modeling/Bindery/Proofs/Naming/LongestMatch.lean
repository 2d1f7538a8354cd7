/-
Namespaces are mapped by the longest match.

A `NamespaceMap` is built by pushing mappings one after the other, and the tree
shows nothing of this history. `NamespaceMap.at?` reads the tree along a path,
and the main statements say what it reads in terms of the history:

* `NamespaceMap.isSome_at?_ofList`, that the tree leads along a path exactly when
  a mapping was pushed for it or for a longer path;
* `NamespaceMap.targetAt?_ofList`, that the target at a path is that of the last
  mapping that was pushed for it;
* `NamespaceMap.exists_descend`, that looking a path up goes down as far as the
  tree leads;
* `NamespaceMap.resolve_longestMatch`, what a namespace is mapped to.
-/

import Bindery.Naming.NamespaceMap
import Mathlib.Order.Bounds.Defs

namespace Bindery

/-! ### Literal suffixes of dotted paths -/

namespace Text

/-- Joined segments can be cut between any two of them. -/
theorem joinWith_append (sep : String) {front back : List String} (hasFront : front ≠ [])
    (hasBack : back ≠ []) :
    joinWith sep (front ++ back) = joinWith sep front ++ sep ++ joinWith sep back := by
  induction front with
  | nil => exact absurd rfl hasFront
  | cons segment rest ih =>
    cases rest with
    | nil => exact joinWith_cons_of_ne_nil sep segment hasBack
    | cons next rest =>
      have later := ih (List.cons_ne_nil _ _)
      rw [List.cons_append, joinWith_cons_of_ne_nil sep segment (by simp), later,
        joinWith_cons_of_ne_nil sep segment (List.cons_ne_nil next rest)]
      simp only [String.append_assoc]

theorem segments_ne_nil (sep : Char) (text : String) : segments sep text ≠ [] := by
  rw [segments, ne_eq, List.map_eq_nil_iff]
  exact cutAt_ne_nil sep text.toList

end Text

namespace NamespaceMap

/-! ### Reading a tree along a path -/

/-- The node that a path of segments leads to, if it leads anywhere. -/
def at? : NamespaceMap → List String → Option NamespaceMap
  | map, [] => some map
  | map, segment :: path => (map.child? segment).bind (·.at? path)

/-- The target of the node that a path of segments leads to. -/
def targetAt? (map : NamespaceMap) (path : List String) : Option String :=
  (map.at? path).bind target

/-- Nothing leads on from the map without mappings. -/
theorem at?_empty_cons (segment : String) (path : List String) :
    empty.at? (segment :: path) = none := rfl

theorem targetAt?_empty (path : List String) : empty.targetAt? path = none := by
  cases path <;> rfl

/-! ### One push -/

theorem lookup_putChild (segment other : String) (child : NamespaceMap)
    (children : List (String × NamespaceMap)) :
    (putChild segment child children).lookup other =
      if other = segment then some child else children.lookup other := by
  induction children with
  | nil =>
    rw [putChild, List.lookup_cons]
    by_cases same : other = segment
    · simp [same]
    · simp [same, beq_eq_false_iff_ne.mpr same]
  | cons entry rest ih =>
    obtain ⟨key, old⟩ := entry
    rw [putChild]
    by_cases here : key = segment
    · subst here
      rw [if_pos rfl, List.lookup_cons, List.lookup_cons]
      by_cases same : other = key
      · simp [same]
      · simp [same, beq_eq_false_iff_ne.mpr same]
    · rw [if_neg here, List.lookup_cons, List.lookup_cons, ih]
      by_cases same : other = key
      · subst same
        simp [here]
      · simp [beq_eq_false_iff_ne.mpr same]

/-- A push changes the child at the first segment of its path alone. -/
theorem child?_pushPath_cons (map : NamespaceMap) (segment other : String) (path : List String)
    (target : String) :
    (pushPath (segment :: path) target map).child? other =
      if other = segment then some (pushPath path target ((map.child? segment).getD empty))
      else map.child? other := by
  cases map
  exact lookup_putChild _ _ _ _

/-- A push lets the tree lead along its path, and keeps the ways that were
there. -/
theorem isSome_at?_pushPath (map : NamespaceMap) (path : List String) (target : String)
    (other : List String) :
    ((pushPath path target map).at? other).isSome ↔ other <+: path ∨ (map.at? other).isSome := by
  induction path generalizing map other with
  | nil =>
    cases map
    cases other <;> simp [pushPath, at?, child?, children]
  | cons segment path ih =>
    cases other with
    | nil => simp [at?]
    | cons first rest =>
      rw [at?, at?, child?_pushPath_cons]
      by_cases same : first = segment
      · subst same
        rw [if_pos rfl, Option.bind_some, ih, List.cons_prefix_cons]
        cases map.child? first with
        | some child => simp
        | none => cases rest <;> simp [at?_empty_cons]
      · rw [if_neg same, List.cons_prefix_cons]
        simp [same]

/-- A push sets the target at its path, and keeps all others. -/
theorem targetAt?_pushPath (map : NamespaceMap) (path : List String) (target : String)
    (other : List String) :
    (pushPath path target map).targetAt? other =
      if other = path then some target else map.targetAt? other := by
  induction path generalizing map other with
  | nil =>
    cases map
    cases other <;> simp [pushPath, targetAt?, at?, child?, children, NamespaceMap.target]
  | cons segment path ih =>
    cases other with
    | nil =>
      cases map
      simp [pushPath, targetAt?, at?, NamespaceMap.target]
    | cons first rest =>
      have below : ∀ map : NamespaceMap, map.targetAt? (first :: rest) =
          (map.child? first).bind (·.targetAt? rest) := fun map => by
        rw [targetAt?, at?, Option.bind_assoc]
        rfl
      rw [below, below, child?_pushPath_cons]
      by_cases same : first = segment
      · subst same
        rw [if_pos rfl, Option.bind_some, ih]
        cases map.child? first with
        | some child => simp
        | none => simp [targetAt?_empty]
      · rw [if_neg same]
        simp [same]

/-! ### Histories of pushes -/

theorem isSome_at?_foldl_push (mappings : List (String × String)) (map : NamespaceMap)
    (path : List String) :
    ((mappings.foldl (fun map mapping => map.push mapping.1 mapping.2) map).at? path).isSome ↔
      (∃ mapping ∈ mappings, path <+: Text.segments '.' mapping.1) ∨ (map.at? path).isSome := by
  induction mappings generalizing map with
  | nil => simp
  | cons mapping rest ih =>
    rw [List.foldl_cons, ih, push, isSome_at?_pushPath]
    simp only [List.mem_cons, exists_eq_or_imp]
    rw [← or_assoc, or_comm (b := path <+: _)]

/-- **The tree leads along a path** exactly when the path is empty, or a mapping
was pushed for it or for a longer path. -/
theorem isSome_at?_ofList (mappings : List (String × String)) (path : List String) :
    ((ofList mappings).at? path).isSome ↔
      path = [] ∨ ∃ mapping ∈ mappings, path <+: Text.segments '.' mapping.1 := by
  rw [ofList, isSome_at?_foldl_push, or_comm]
  cases path with
  | nil => simp [at?]
  | cons segment path => simp [at?_empty_cons]

theorem targetAt?_foldl_push (mappings : List (String × String)) (map : NamespaceMap)
    (path : List String) :
    (mappings.foldl (fun map mapping => map.push mapping.1 mapping.2) map).targetAt? path =
      ((mappings.filter fun mapping => Text.segments '.' mapping.1 = path).getLast?.map
        Prod.snd).or (map.targetAt? path) := by
  induction mappings generalizing map with
  | nil => simp
  | cons mapping rest ih =>
    rw [List.foldl_cons, ih, push, targetAt?_pushPath, List.filter_cons]
    by_cases same : Text.segments '.' mapping.1 = path
    · rw [if_pos same.symm, if_pos (by simpa using same), List.getLast?_cons]
      cases (rest.filter fun mapping => Text.segments '.' mapping.1 = path).getLast? <;> rfl
    · rw [if_neg (Ne.symm same), if_neg (by simpa using same)]

/-- **The target at a path** is that of the last mapping pushed for this very
path. -/
theorem targetAt?_ofList (mappings : List (String × String)) (path : List String) :
    (ofList mappings).targetAt? path =
      (mappings.filter fun mapping => Text.segments '.' mapping.1 = path).getLast?.map
        Prod.snd := by
  rw [ofList, targetAt?_foldl_push, targetAt?_empty, Option.or_none]

/-! ### Looking a path up -/

/-- Looking a path up goes down as far as the tree leads along it, and leaves the
rest of the path over. -/
theorem exists_descend (map : NamespaceMap) (path : List String) :
    ∃ matched reached, matched ≤ path.length ∧
      map.descend path = (reached, path.drop matched) ∧
      map.at? (path.take matched) = some reached ∧
      ∀ count ≤ path.length, (map.at? (path.take count)).isSome → count ≤ matched := by
  induction path generalizing map with
  | nil => exact ⟨0, map, Nat.le_refl _, rfl, rfl, fun count within _ => within⟩
  | cons segment path ih =>
    rw [descend]
    cases found : map.child? segment with
    | none =>
      refine ⟨0, map, Nat.zero_le _, rfl, rfl, fun count _ leads => ?_⟩
      cases count with
      | zero => exact Nat.le_refl _
      | succ count => simp [at?, found] at leads
    | some child =>
      obtain ⟨matched, reached, within, descends, here, greatest⟩ := ih child
      refine ⟨matched + 1, reached, Nat.succ_le_succ within, descends, ?_, ?_⟩
      · rw [List.take_succ_cons, at?, found, Option.bind_some, here]
      · intro count within leads
        cases count with
        | zero => exact Nat.zero_le _
        | succ count =>
          rw [List.take_succ_cons, at?, found, Option.bind_some] at leads
          exact Nat.succ_le_succ (greatest count (Nat.le_of_succ_le_succ within) leads)

/-- What a path is resolved to, when the tree leads along `matched` of its
segments and no further. -/
theorem resolve_of_descend {map reached : NamespaceMap} {source : String} {matched : Nat}
    (descends : map.descend (Text.segments '.' source) =
      (reached, (Text.segments '.' source).drop matched))
    (within : matched ≤ (Text.segments '.' source).length) :
    map.resolve source =
      if matched = 0 then (none, some source)
      else match reached.target with
        | none => (none, some source)
        | some target =>
          (some target, if matched = (Text.segments '.' source).length then none
            else some (Text.joinWith "." ((Text.segments '.' source).drop matched))) := by
  have nonempty := List.length_pos_iff.mpr (Text.segments_ne_nil '.' source)
  simp only [resolve, descends, List.length_drop]
  by_cases nothing : matched = 0
  · simp [nothing]
  · rw [if_neg (by omega), if_neg nothing]
    cases reached.target with
    | none => rfl
    | some target =>
      by_cases whole : matched = (Text.segments '.' source).length
      · rw [if_pos whole, whole, List.drop_length]
      · rw [if_neg whole]
        cases left : (Text.segments '.' source).drop matched with
        | nil =>
          have := List.drop_eq_nil_iff.mp left
          omega
        | cons segment rest => rfl

/-- **A namespace is mapped by the longest match.** Let the mappings be pushed in
order, and cut the namespace and their sources at every dot. The longest match
is the greatest number of leading segments that the namespace shares with a
source. When it is nothing, or no source is exactly these segments, the namespace
is not mapped. Otherwise the target is that of the last mapping with this source,
and left over is the text behind the matched segments and their dot, if there is
any; it follows the target behind a dot, in lower case if asked for. -/
theorem resolve_longestMatch (mappings : List (String × String)) (source : String) :
    Text.joinWith "." (Text.segments '.' source) = source ∧
    (∀ segment ∈ Text.segments '.' source, '.' ∉ segment.toList) ∧
    let map := ofList mappings
    let path := Text.segments '.' source
    ∃ matched,
      IsGreatest {count | count ≤ path.length ∧ (count = 0 ∨
        ∃ mapping ∈ mappings, path.take count <+: Text.segments '.' mapping.1)} matched ∧
      let pushed := mappings.filter fun mapping => Text.segments '.' mapping.1 = path.take matched
      (matched = 0 ∨ pushed = [] → map.resolve source = (none, some source) ∧
        ∀ normalization, map.mapped? source normalization = none) ∧
      ∀ last ∈ pushed.getLast?, 0 < matched ∧
        (matched = path.length → map.resolve source = (some last.2, none) ∧
          ∀ normalization, map.mapped? source normalization = some last.2) ∧
        (matched < path.length → ∃ rest,
          source = Text.joinWith "." (path.take matched) ++ "." ++ rest ∧
          map.resolve source = (some last.2, some rest) ∧
          map.mapped? source .keep = some (last.2 ++ "." ++ rest) ∧
          map.mapped? source .lowerCase =
            some (last.2 ++ "." ++ String.ofList (Unicode.lowerCase rest.toList))) := by
  have joined : Text.joinWith "." (Text.segments '.' source) = source :=
    Text.joinWith_segments '.' source
  refine ⟨joined, ?_, ?_⟩
  · intro segment mem
    obtain ⟨piece, here, rfl⟩ := List.mem_map.mp mem
    rw [String.toList_ofList]
    exact Text.not_mem_of_mem_cutAt here
  intro map path
  obtain ⟨matched, reached, within, descends, here, greatest⟩ := map.exists_descend path
  have leads : ∀ count, (map.at? (path.take count)).isSome ↔ count = 0 ∨
      ∃ mapping ∈ mappings, path.take count <+: Text.segments '.' mapping.1 := fun count => by
    rw [isSome_at?_ofList, List.take_eq_nil_iff, or_iff_left (Text.segments_ne_nil '.' source)]
  have target : reached.target = (mappings.filter fun mapping =>
      Text.segments '.' mapping.1 = path.take matched).getLast?.map Prod.snd := by
    rw [← targetAt?_ofList, targetAt?]
    exact (congrArg (Option.bind · NamespaceMap.target) here).symm
  have resolved := resolve_of_descend descends within
  refine ⟨matched, ⟨⟨within, (leads matched).mp (by rw [here]; rfl)⟩, ?_⟩, ?_, ?_⟩
  · rintro count ⟨within, shared⟩
    exact greatest count within ((leads count).mpr shared)
  · intro unmapped
    have nothing : map.resolve source = (none, some source) := by
      rw [resolved]
      split
      · rfl
      · rename_i positive
        rw [target, unmapped.resolve_left positive]
        rfl
    exact ⟨nothing, fun normalization => by rw [mapped?, nothing]⟩
  · intro last isLast
    have mem := List.mem_of_getLast? isLast
    have exactly : Text.segments '.' last.1 = path.take matched := by
      simpa using (List.mem_filter.mp mem).2
    have positive : matched ≠ 0 := by
      rintro rfl
      exact Text.segments_ne_nil '.' last.1 exactly
    rw [target, Option.mem_def.mp isLast, if_neg positive] at resolved
    refine ⟨Nat.pos_of_ne_zero positive, fun whole => ?_, fun short => ?_⟩
    · have whole' : map.resolve source = (some last.2, none) := by
        rw [resolved]
        exact congrArg (Prod.mk _) (if_pos whole)
      exact ⟨whole', fun normalization => by rw [mapped?, whole']⟩
    · have left : path.drop matched ≠ [] := by
        rw [ne_eq, List.drop_eq_nil_iff]
        omega
      have front : path.take matched ≠ [] := exactly ▸ Text.segments_ne_nil '.' last.1
      have rest : map.resolve source =
          (some last.2, some (Text.joinWith "." (path.drop matched))) := by
        rw [resolved]
        exact congrArg (Prod.mk _) (if_neg (Nat.ne_of_lt short))
      refine ⟨Text.joinWith "." (path.drop matched), ?_, rest, by rw [mapped?, rest]; rfl,
        by rw [mapped?, rest]; rfl⟩
      rw [← Text.joinWith_append "." front left, List.take_append_drop, joined]

end NamespaceMap

end Bindery

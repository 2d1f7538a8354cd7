/-
What a validation report says.

The rules for attributes are stated on their own: `Attributes.Proper` for the
attributes of one symbol, `Decl.Proper` for a declaration with its members, and
`Library.Declares` for the declarations of a library at every depth. A `Symbol`
is what the rules look at, and `Library.symbols` lists the symbols of a library,
a declaration before its members. The main statements are

* `faultsAt_eq_nil_iff`, that a symbol without faults is one whose attributes
  are proper;
* `Decl.misuses_eq_nil_iff`, the same for a declaration and what is nested in it;
* `Library.misuses_exact`, that the report of a library is empty exactly when all
  its declarations are proper, and what it lists otherwise.
-/

import Bindery.Declaration.Validation
import Mathlib.Data.List.Basic

namespace Bindery

/-! ### Attributes of one symbol -/

/-- The rules for the attributes of a symbol: no explicit binding is empty, a
stem, a substitution or a module name stands only where it has a meaning, and
only the mark of what is left out may be repeated. -/
structure Attributes.Proper (site : Site) (attributes : Attributes) : Prop where
  binding : .explicitBinding "" ∉ attributes
  stem : ∀ name, .stem name ∈ attributes → site = .declaration .enumType
  substitution : ∀ pattern replacement, .substitution pattern replacement ∈ attributes →
    site = .declaration .enumType
  moduleName : ∀ name, .moduleName name ∈ attributes →
    site = .declaration .classType ∨ site = .declaration .structType
  once : attributes.Pairwise fun first second => first.kind = second.kind → first.kind = .ignore

theorem Attribute.Kind.mem_onceOnly_iff {kind : Attribute.Kind} :
    kind ∈ onceOnly ↔ kind ≠ .ignore := by
  cases kind <;> simp [onceOnly]

/-- Only `ignore` is found twice exactly when every other kind is counted once
at most. -/
theorem Attributes.pairwise_kind_iff (attributes : Attributes) :
    (attributes.Pairwise fun first second => first.kind = second.kind → first.kind = .ignore) ↔
      ∀ kind ∈ onceOnly, attributes.countKind kind ≤ 1 := by
  rw [List.pairwise_iff_forall_sublist]
  constructor
  · intro once kind mem
    refine Nat.le_of_not_lt fun many => ?_
    rw [countKind, List.countP_eq_length_filter] at many
    match found : attributes.filter (·.kind == kind) with
    | [] | [_] => simp [found] at many
    | first :: second :: rest =>
      have kinds : ∀ a ∈ first :: second :: rest, a.kind = kind := by
        rw [← found]
        intro a mem
        exact beq_iff_eq.mp (List.mem_filter.mp mem).2
      have here : first.kind = kind := kinds first (by simp)
      have there : second.kind = kind := kinds second (by simp)
      have listed : (first :: second :: rest).Sublist attributes := found ▸ List.filter_sublist
      have twice := (List.prefix_append [first, second] rest).sublist.trans listed
      exact Attribute.Kind.mem_onceOnly_iff.mp mem
        (here.symm.trans (once twice (here.trans there.symm)))
  · intro count first second twice same
    refine Decidable.byContradiction fun other => ?_
    have counted : List.countP (·.kind == first.kind) [first, second] ≤ 1 :=
      Nat.le_trans twice.countP_le
        (count first.kind (Attribute.Kind.mem_onceOnly_iff.mpr other))
    simp [same] at counted

/-- An attribute has no fault on its own unless it is an empty binding or it has
no meaning at its place. -/
theorem Attribute.faultAt_eq_none_iff (site : Site) (a : Attribute) :
    a.faultAt site = none ↔ a ≠ .explicitBinding "" ∧ a.kind.allowedAt site = true := by
  unfold Attribute.faultAt
  by_cases blank : a = .explicitBinding ""
  · simp [blank]
  · by_cases allowed : a.kind.allowedAt site = true <;> simp [blank, allowed]

/-- **A symbol has no faults** exactly when its attributes keep the rules. -/
theorem faultsAt_eq_nil_iff (site : Site) (attributes : Attributes) :
    faultsAt site attributes = [] ↔ attributes.Proper site := by
  have alone : attributes.filterMap (Attribute.faultAt site) = [] ↔
      ∀ a ∈ attributes, a ≠ .explicitBinding "" ∧ a.kind.allowedAt site = true := by
    simp only [List.filterMap_eq_nil_iff, Attribute.faultAt_eq_none_iff]
  have together : (onceOnly.filter fun kind => 1 < attributes.countKind kind).map
      Fault.repeated = [] ↔ ∀ kind ∈ onceOnly, attributes.countKind kind ≤ 1 := by
    simp [List.filter_eq_nil_iff]
  rw [faultsAt, List.append_eq_nil_iff, alone, together, ← Attributes.pairwise_kind_iff]
  constructor
  · rintro ⟨alone, once⟩
    refine ⟨fun mem => (alone _ mem).1 rfl, fun name mem => ?_, fun pattern replacement mem => ?_,
      fun name mem => ?_, once⟩
    · exact beq_iff_eq.mp (alone _ mem).2
    · exact beq_iff_eq.mp (alone _ mem).2
    · simpa [Attribute.kind, Attribute.Kind.allowedAt] using (alone _ mem).2
  · intro proper
    refine ⟨fun a mem => ⟨fun blank => proper.binding (blank ▸ mem), ?_⟩, proper.once⟩
    cases a with
    | explicitBinding name => rfl
    | ignore => rfl
    | stem name => exact beq_iff_eq.mpr (proper.stem name mem)
    | substitution pattern replacement =>
      exact beq_iff_eq.mpr (proper.substitution pattern replacement mem)
    | moduleName name =>
      simpa [Attribute.kind, Attribute.Kind.allowedAt] using proper.moduleName name mem

/-! ### Declarations at every depth -/

/-- The declarations of a library: those at the top, and those nested in another,
left out or not. -/
inductive Library.Declares (library : Library) : Decl → Prop where
  | top {decl : Decl} : decl ∈ library.types → library.Declares decl
  | nested {outer inner : Decl} : library.Declares outer → .nested inner ∈ outer.members →
      library.Declares inner

/-- The rules for a declaration: its attributes and those of its members are
proper, nested declarations aside, and a delegate has a signature. -/
structure Decl.Proper (decl : Decl) : Prop where
  own : decl.attributes.Proper (.declaration decl.kind)
  members : ∀ member ∈ decl.members, (∀ inner, member ≠ .nested inner) →
    member.attributes.Proper .member
  signed : decl.kind = .delegate → decl.signature ≠ none

/-- The faults of a declaration itself. -/
theorem Decl.ownFaults_eq_nil_iff (decl : Decl) :
    decl.ownFaults = [] ↔ decl.attributes.Proper (.declaration decl.kind) ∧
      (decl.kind = .delegate → decl.signature ≠ none) := by
  rw [ownFaults, List.append_eq_nil_iff, faultsAt_eq_nil_iff]
  refine and_congr_right fun _ => ?_
  split <;> simp_all

/-- The misuses of one member of the declaration called `owner`. -/
def Member.report (owner : String) : Member → List Misuse
  | .nested decl => decl.misuses
  | .method m => (faultsAt .member m.attributes).map (Misuse.mk (owner ++ "." ++ m.name))
  | .field f => (faultsAt .member f.attributes).map (Misuse.mk (owner ++ "." ++ f.name))
  | .enumMember e => (faultsAt .member e.attributes).map (Misuse.mk (owner ++ "." ++ e.name))

/-- The misuses in members are those of one member after the other. -/
theorem Member.misuses_eq_flatMap (owner : String) (members : List Member) :
    Member.misuses owner members = members.flatMap (Member.report owner) := by
  induction members with
  | nil => rfl
  | cons member rest ih => cases member <;> rw [Member.misuses, ih, List.flatMap_cons] <;> rfl

/-- Members have no misuses exactly when those that are no declarations keep the
rules, and those that are have none. -/
theorem Member.misuses_eq_nil_iff (owner : String) (members : List Member) :
    Member.misuses owner members = [] ↔
      (∀ member ∈ members, (∀ inner, member ≠ .nested inner) → member.attributes.Proper .member) ∧
      ∀ inner, .nested inner ∈ members → inner.misuses = [] := by
  rw [Member.misuses_eq_flatMap, List.flatMap_eq_nil_iff]
  constructor
  · intro none
    refine ⟨fun member mem isPlain => ?_, fun inner mem => none _ mem⟩
    have nothing := none member mem
    cases member with
    | nested inner => exact absurd rfl (isPlain inner)
    | method m => exact (faultsAt_eq_nil_iff _ _).mp (List.map_eq_nil_iff.mp nothing)
    | field f => exact (faultsAt_eq_nil_iff _ _).mp (List.map_eq_nil_iff.mp nothing)
    | enumMember e => exact (faultsAt_eq_nil_iff _ _).mp (List.map_eq_nil_iff.mp nothing)
  · rintro ⟨proper, nested⟩ member mem
    cases member with
    | nested inner => exact nested inner mem
    | method m =>
      exact List.map_eq_nil_iff.mpr ((faultsAt_eq_nil_iff _ _).mpr (proper _ mem (by simp)))
    | field f =>
      exact List.map_eq_nil_iff.mpr ((faultsAt_eq_nil_iff _ _).mpr (proper _ mem (by simp)))
    | enumMember e =>
      exact List.map_eq_nil_iff.mpr ((faultsAt_eq_nil_iff _ _).mpr (proper _ mem (by simp)))

/-- **A declaration has no misuses** exactly when it is proper and nothing nested
in it has any. -/
theorem Decl.misuses_eq_nil_iff (decl : Decl) :
    decl.misuses = [] ↔ decl.Proper ∧ ∀ inner, .nested inner ∈ decl.members → inner.misuses = [] := by
  obtain ⟨kind, identifier, namespacePath, attributes, members, signature⟩ := decl
  rw [Decl.misuses, List.append_eq_nil_iff, List.map_eq_nil_iff, Decl.ownFaults_eq_nil_iff,
    Member.misuses_eq_nil_iff]
  constructor
  · rintro ⟨⟨own, signed⟩, proper, inner⟩
    exact ⟨⟨own, proper, signed⟩, inner⟩
  · rintro ⟨⟨own, proper, signed⟩, inner⟩
    exact ⟨⟨own, signed⟩, proper, inner⟩

theorem Library.misuses_eq_nil_iff_top (library : Library) :
    library.misuses = [] ↔ ∀ decl ∈ library.types, decl.misuses = [] :=
  List.flatMap_eq_nil_iff

/-- Where all declarations are proper, none has misuses. The induction is on the
depth to which a declaration is nested. -/
theorem Library.misuses_of_declares {library : Library}
    (proper : ∀ decl, library.Declares decl → decl.Proper) (decl : Decl)
    (declared : library.Declares decl) : decl.misuses = [] := by
  refine decl.misuses_eq_nil_iff.mpr ⟨proper decl declared, fun inner mem => ?_⟩
  have smaller : sizeOf inner < sizeOf decl := by
    have := List.sizeOf_lt_of_mem mem
    cases decl
    simp_all
    omega
  exact library.misuses_of_declares proper inner (.nested declared mem)
termination_by sizeOf decl

/-- A library is valid exactly when all its declarations, at every depth, are
proper. -/
theorem Library.misuses_eq_nil_iff (library : Library) :
    library.misuses = [] ↔ ∀ decl, library.Declares decl → decl.Proper := by
  rw [library.misuses_eq_nil_iff_top]
  constructor
  · intro top decl declared
    have none : decl.misuses = [] := by
      induction declared with
      | top mem => exact top _ mem
      | nested _ mem ih => exact ((Decl.misuses_eq_nil_iff _).mp ih).2 _ mem
    exact ((Decl.misuses_eq_nil_iff _).mp none).1
  · intro proper decl mem
    exact library.misuses_of_declares proper decl (.top mem)

/-! ### The symbols of a library in order -/

/-- A symbol as the rules see it: its qualified name, its place and attributes,
and whether it is a delegate without a signature. -/
structure Symbol where
  name : String
  site : Site
  attributes : Attributes
  unsigned : Bool

mutual

/-- The symbols of a declaration: the declaration itself, then its members in
order. -/
def Decl.symbols : Decl → List Symbol
  | ⟨kind, identifier, namespacePath, attributes, members, signature⟩ =>
    let name := Decl.qualifiedName
      ⟨kind, identifier, namespacePath, attributes, members, signature⟩
    ⟨name, .declaration kind, attributes, kind = .delegate ∧ signature = none⟩ ::
      Member.symbols name members

/-- The symbols among the members of the declaration called `owner`; those of a
nested declaration stand in its place. -/
def Member.symbols (owner : String) : List Member → List Symbol
  | [] => []
  | .nested decl :: rest => decl.symbols ++ Member.symbols owner rest
  | .method m :: rest =>
    ⟨owner ++ "." ++ m.name, .member, m.attributes, false⟩ :: Member.symbols owner rest
  | .field f :: rest =>
    ⟨owner ++ "." ++ f.name, .member, f.attributes, false⟩ :: Member.symbols owner rest
  | .enumMember e :: rest =>
    ⟨owner ++ "." ++ e.name, .member, e.attributes, false⟩ :: Member.symbols owner rest

end

/-- The symbols of a library, in the order of declaration. -/
def Library.symbols (library : Library) : List Symbol :=
  library.types.flatMap Decl.symbols

/-- What the rules have against one attribute, whatever stands beside it. -/
def Attribute.objections (site : Site) : Attribute → List Fault
  | .explicitBinding name => if name = "" then [.emptyBinding] else []
  | .stem _ => if site = .declaration .enumType then [] else [.misplaced .stem]
  | .substitution _ _ => if site = .declaration .enumType then [] else [.misplaced .substitution]
  | .moduleName _ =>
    if site = .declaration .classType ∨ site = .declaration .structType then []
    else [.misplaced .moduleName]
  | .ignore => []

/-- What the rules have against a symbol: its attributes one by one, then the
kinds that are repeated, then the missing signature. -/
def Symbol.objections (symbol : Symbol) : List Fault :=
  symbol.attributes.flatMap (Attribute.objections symbol.site) ++
  ([.explicitBinding, .stem, .moduleName, .substitution].filter fun kind =>
    2 ≤ (symbol.attributes.map Attribute.kind).count kind).map .repeated ++
  if symbol.unsigned then [.missingSignature] else []

/-- The entries of a report for a symbol. -/
def Symbol.misuses (symbol : Symbol) : List Misuse :=
  symbol.objections.map (Misuse.mk symbol.name)

theorem Attribute.toList_faultAt (site : Site) (a : Attribute) :
    (a.faultAt site).toList = a.objections site := by
  cases a with
  | explicitBinding name =>
    by_cases blank : name = "" <;>
      simp [faultAt, objections, blank, Attribute.kind, Attribute.Kind.allowedAt]
  | ignore => rfl
  | stem name =>
    by_cases allowed : site = .declaration .enumType <;>
      simp [faultAt, objections, allowed, Attribute.kind, Attribute.Kind.allowedAt]
  | substitution pattern replacement =>
    by_cases allowed : site = .declaration .enumType <;>
      simp [faultAt, objections, allowed, Attribute.kind, Attribute.Kind.allowedAt]
  | moduleName name =>
    by_cases allowed : site = .declaration .classType ∨ site = .declaration .structType <;>
      simp [faultAt, objections, allowed, Attribute.kind, Attribute.Kind.allowedAt]

/-- The faults that are found in attributes are what the rules have against
them. -/
theorem faultsAt_eq (site : Site) (attributes : Attributes) :
    faultsAt site attributes =
      attributes.flatMap (Attribute.objections site) ++
      ([.explicitBinding, .stem, .moduleName, .substitution].filter fun kind =>
        2 ≤ (attributes.map Attribute.kind).count kind).map .repeated := by
  have alone : attributes.filterMap (Attribute.faultAt site) =
      attributes.flatMap (Attribute.objections site) := by
    rw [List.filterMap_eq_flatMap_toList]
    exact congrArg attributes.flatMap (funext (Attribute.toList_faultAt site))
  have count : ∀ kind, attributes.countKind kind = (attributes.map Attribute.kind).count kind :=
    fun kind => by rw [List.count, List.countP_map]; rfl
  simp only [faultsAt, alone, count, onceOnly, Nat.lt_iff_add_one_le]

mutual

theorem Decl.misuses_eq_flatMap (decl : Decl) :
    decl.misuses = decl.symbols.flatMap Symbol.misuses := by
  obtain ⟨kind, identifier, namespacePath, attributes, members, signature⟩ := decl
  rw [Decl.misuses, Decl.symbols, List.flatMap_cons, Member.misuses_eq_flatMap_symbols members]
  congr 2
  simp [Decl.ownFaults, Symbol.objections, faultsAt_eq]

theorem Member.misuses_eq_flatMap_symbols (members : List Member) (owner : String) :
    Member.misuses owner members = (Member.symbols owner members).flatMap Symbol.misuses := by
  match members with
  | [] => rfl
  | .nested decl :: rest =>
    rw [Member.misuses, Member.symbols, List.flatMap_append, decl.misuses_eq_flatMap,
      Member.misuses_eq_flatMap_symbols rest]
  | .method m :: rest | .field m :: rest | .enumMember m :: rest =>
    rw [Member.misuses, Member.symbols, List.flatMap_cons, Member.misuses_eq_flatMap_symbols rest,
      Symbol.misuses, Symbol.objections, ← faultsAt_eq]
    simp

end

/-- **A report is empty exactly when every rule is kept, and says otherwise which
are not.** A library has no misuses when every declaration at every depth, left
out or not, is proper: no explicit binding is empty, stems and substitutions
stand on enums only and module names on classes and structs only, each of the
four kinds stands on a symbol once at most, and every delegate has a signature.
The report lists what the rules have against each symbol, under its qualified
name, in the order of declaration; it is the report of one declaration at the top
after the other. -/
theorem Library.misuses_exact (library : Library) :
    (library.misuses = [] ↔ ∀ decl, library.Declares decl → decl.Proper) ∧
    library.misuses = library.symbols.flatMap (fun symbol =>
      symbol.objections.map (Misuse.mk symbol.name)) ∧
    library.misuses = library.types.flatMap fun decl =>
      ({ library with types := [decl] } : Library).misuses := by
  refine ⟨library.misuses_eq_nil_iff, ?_, ?_⟩
  · rw [Library.misuses, Library.symbols, List.flatMap_assoc]
    exact congrArg library.types.flatMap (funext Decl.misuses_eq_flatMap)
  · simp [Library.misuses]

end Bindery

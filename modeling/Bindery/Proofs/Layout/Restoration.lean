/-
Nested scripts give their emitter back.

A script acts on its own emitter and, in a nested block, on a child that it has
created; the child is closed at the end of the block. So its acts are nested
(`Family.Nested`): they are acts of the emitter, and between them the acts of
younger ones. An emitter that is not closed by an act of its own is open all the
time, and what the script does to it has an answer. Only a child that was closed
by hand can be written to in vain. The main statements are

* `Script.nested`, that the acts of a script are nested;
* `Family.Nested.emitter_of_mem`, that nested acts are acts of the emitter or of
  younger ones;
* `Family.Nested.breaksOff`, that nested acts break off on an emitter that was closed
  among them;
* `Family.replay_restored`, that after any acts a script which neither closes nor
  resets its emitter leaves it as it was, also when the script ends early.
-/

import Bindery.Proofs.Layout.Effects
import Bindery.Proofs.Layout.Guards
import Bindery.Proofs.Layout.Translation

namespace Bindery.Layout

variable {ε : Type}

/-- Whether a script wrote to an emitter that was closed. -/
def Ending.isAborted : Ending ε → Bool
  | .aborted => true
  | _ => false

/-! ### Nested acts -/

/-- Acts on an emitter and, between them, on children that it is given. The acts may
break off with one that has no answer. If the emitter stays, then none of its own
acts closes it. -/
inductive Family.Nested : Bool → FrameId → Family → List Act → Bool → Prop
  | nil {stays : Bool} {i : FrameId} {family : Family} : Nested stays i family [] false
  | abort {stays : Bool} {i : FrameId} {family : Family} (act : Act) (here : act.emitter = i)
      (aborts : family.Aborts act) : Nested stays i family [act] true
  | own {stays aborted : Bool} {i : FrameId} {family after : Family} {acts : List Act} (act : Act)
      (here : act.emitter = i) (kept : stays = true → act ≠ .close i)
      (leads : family.act act = after) (later : Nested stays i after acts aborted) :
      Nested stays i family (act :: acts) aborted
  | child {stays aborted : Bool} {i j : FrameId} {family created : Family} {acts : List Act}
      (levels : Nat) (creates : family.newChild i levels = .ok (j, created))
      (inside : Nested false j created acts aborted) :
      Nested stays i family (.newChild i levels :: acts) aborted
  | append {stays aborted : Bool} {i : FrameId} {family : Family} {second : List Act}
      (first : List Act) (before : Nested stays i family first false)
      (behind : Nested stays i (family.replay first) second aborted) :
      Nested stays i family (first ++ second) aborted

namespace Family.Nested

/-! ### The acts of a script -/

variable {stays : Bool} {i : FrameId} {family : Family} {acts : List Act} {run : Run ε}
  {body : Script ε} {next : Family → Run ε} {behind : Family → List Act}

/-- A block is left by an act, unless it broke off. -/
theorem leave (nested : Nested stays i family acts run.ending.isAborted) {act : Act}
    (here : act.emitter = i) (kept : stays = true → act ≠ .close i) :
    Nested stays i family (acts ++ run.ending.cleanUp act)
      (run.leave (·.act act)).ending.isAborted := by
  obtain ⟨ending, left⟩ := run
  cases ending with
  | aborted => exact (List.append_nil acts).symm ▸ nested
  | done | refused | failed => exact .append acts nested (.own act here kept rfl .nil)

/-- What follows a block that has ended well. -/
theorem andThen (nested : Nested stays i family acts run.ending.isAborted)
    (left : run.family = family.replay acts)
    (follows : ∀ family, Nested stays i family (behind family) (next family).ending.isAborted) :
    Nested stays i family (acts ++ run.actsThen behind) (run.andThen next).ending.isAborted := by
  obtain ⟨ending, after⟩ := run
  cases ending with
  | done => exact .append acts nested (left ▸ follows after)
  | refused | failed | aborted => exact (List.append_nil acts).symm ▸ nested

/-- A scope that was opened, its body, and what follows when it was released. -/
theorem throughScope {opened : Family}
    (inside : Nested stays i opened (body.acts i opened) (body.run i opened).ending.isAborted)
    (follows : ∀ family, Nested stays i family (behind family) (next family).ending.isAborted) :
    Nested stays i opened
      (body.acts i opened ++ (body.run i opened).ending.cleanUp (.release i) ++
        ((body.run i opened).leave (·.release i)).actsThen behind)
      (((body.run i opened).leave (·.release i)).andThen next).ending.isAborted := by
  have left := (body.run i opened).leave_family (.release i)
  rw [body.run_family, ← replay_append] at left
  have released : (Act.release i).emitter = i := rfl
  exact (inside.leave released fun _ => nofun).andThen left follows

/-- A child that was created, its body, and what follows when it was closed. -/
theorem throughChild {created : Family} {j : FrameId} {levels : Nat}
    (creates : family.newChild i levels = .ok (j, created))
    (inside : Nested false j created (body.acts j created) (body.run j created).ending.isAborted)
    (follows : ∀ family, Nested stays i family (behind family) (next family).ending.isAborted) :
    Nested stays i family
      (.newChild i levels ::
        (body.acts j created ++ (body.run j created).ending.cleanUp (.close j) ++
          ((body.run j created).leave (·.close j)).actsThen behind))
      (((body.run j created).leave (·.close j)).andThen next).ending.isAborted := by
  obtain rfl := act_newChild creates
  have left := (body.run j (family.act (.newChild i levels))).leave_family (.close j)
  rw [body.run_family, ← replay_append] at left
  have closed : (Act.close j).emitter = j := rfl
  exact (Nested.child levels creates (inside.leave closed nofun)).andThen left follows

end Family.Nested

open Family in
/-- **The acts of a script are nested.** If it keeps its place, its emitter stays. -/
theorem Script.nested (script : Script ε) (stays : Bool) (keeps : stays = true → script.KeepsPlace)
    (i : FrameId) (family : Family) :
    Nested stays i family (script.acts i family) (script.run i family).ending.isAborted := by
  induction script generalizing stays i family with
  | done => exact .nil
  | fail cause => exact .nil
  | write text rest ih =>
    rw [Script.acts, Script.run]
    cases written : family.write i text with
    | none => exact .abort _ rfl written
    | some after =>
      exact .own _ rfl (fun _ => Act.noConfusion) (congrArg (·.getD family) written) (ih stays keeps i after)
  | line text rest ih =>
    rw [Script.acts, Script.run]
    cases written : family.writeLine i text with
    | none => exact .abort _ rfl written
    | some after =>
      exact .own _ rfl (fun _ => Act.noConfusion) (congrArg (·.getD family) written) (ih stays keeps i after)
  | scope s body rest ihBody ihRest =>
    have inside := ihBody stays (fun stayed => (keeps stayed).1) i
    have follows := ihRest stays (fun stayed => (keeps stayed).2) i
    rw [Script.acts, Script.run]
    cases opens : family.openScope i s with
    | error reason => exact .own _ rfl (fun _ => Act.noConfusion) rfl .nil
    | ok opened =>
      have leads : family.act (.openScope i s) = opened := by simp only [Family.act, opens]
      exact .own _ rfl (fun _ => Act.noConfusion) leads ((inside opened).throughScope follows)
  | block s body rest ihBody ihRest =>
    have inside := ihBody stays (fun stayed => (keeps stayed).1) i
    have follows := ihRest stays (fun stayed => (keeps stayed).2) i
    rw [Script.acts, Script.run]
    cases opens : family.openBlock i s with
    | none => exact .abort _ rfl opens
    | some opened =>
      exact .own _ rfl (fun _ => Act.noConfusion) (congrArg (·.getD family) opens)
        ((inside opened).throughScope follows)
  | child levels body rest ihBody ihRest =>
    rw [Script.acts, Script.run]
    cases creates : family.newChild i levels with
    | error reason => exact .own _ rfl (fun _ => Act.noConfusion) rfl .nil
    | ok pair =>
      obtain ⟨j, created⟩ := pair
      exact .throughChild creates (ihBody false (absurd · Bool.false_ne_true) j created) (ihRest stays keeps i)
  | writer body rest ihBody ihRest =>
    have inside := ihBody stays (fun stayed => (keeps stayed).1) i
    have follows := ihRest stays (fun stayed => (keeps stayed).2) i
    rw [Script.acts, Script.run]
    cases lends : family.lend i with
    | none => exact .abort _ rfl lends
    | some lent =>
      exact .own _ rfl (fun _ => Act.noConfusion) (congrArg (·.getD family) lends)
        ((inside lent).andThen (body.run_family i lent) follows)
  | reset rest ih =>
    rw [Script.acts, Script.run]
    cases taken : family.reset i with
    | none => exact .abort _ rfl taken
    | some after =>
      exact .own _ rfl (fun _ => Act.noConfusion) (congrArg (·.getD family) taken)
        (ih stays (fun stayed => (keeps stayed).elim) i after)
  | close rest ih =>
    exact .own _ rfl (fun stayed => (keeps stayed).elim) rfl
      (ih stays (fun stayed => (keeps stayed).elim) i (family.close i))

/-! ### What nested acts can do -/

namespace Family

variable {stays aborted : Bool} {i j : FrameId} {family : Family}
  {acts before after lead : List Act} {chain : List FrameId}

/-- **Nested acts are acts of the emitter or of younger ones**, which are created
among them. -/
theorem Nested.emitter_of_mem (nested : Nested stays i family acts aborted)
    (ranked : family.Ranked chain) :
    ∀ act ∈ acts, act.emitter = i ∨ family.frames.size ≤ act.emitter := by
  induction nested generalizing chain with
  | nil => exact fun _ mem => absurd mem List.not_mem_nil
  | abort act here _ =>
    intro other mem
    rw [List.mem_singleton.mp mem]
    exact .inl here
  | own act here _ leads _ ih =>
    subst leads
    obtain ⟨chain', ranked'⟩ := ranked.act act
    have grows := ranked.size_le_act act
    rintro other (_ | ⟨_, later⟩)
    · exact .inl here
    · exact (ih ranked' other later).imp_right grows.trans
  | child levels creates _ ih =>
    obtain ⟨rfl, grows, -, chain', ranked'⟩ := ranked.newChild creates
    rintro act (_ | ⟨_, later⟩)
    · exact .inl rfl
    · right
      rcases ih ranked' act later with new | newer
      · exact new.ge
      · exact grows.le.trans newer
  | append first _ _ ihFirst ihSecond =>
    obtain ⟨chain', ranked'⟩ := ranked.replay first
    have grows := ranked.size_le_replay first
    intro act mem
    rcases List.mem_append.mp mem with sooner | later
    · exact ihFirst ranked act sooner
    · exact (ihSecond ranked' act later).imp_right grows.trans

theorem Nested.younger (nested : Nested stays i family acts aborted)
    (ranked : family.Ranked chain) (within : i < family.frames.size) :
    ∀ act ∈ acts, i ≤ act.emitter := by
  intro act mem
  rcases nested.emitter_of_mem ranked act mem with here | newer
  · exact here.ge
  · exact within.le.trans newer

/-- An emitter that stays is not closed, neither by its own acts nor as a child. -/
theorem Nested.close_not_mem (nested : Nested stays i family acts aborted)
    (ranked : family.Ranked chain) (within : i < family.frames.size) (stay : stays = true) :
    .close i ∉ acts := by
  induction nested generalizing chain with
  | nil => exact List.not_mem_nil
  | abort act _ aborts =>
    rintro (_ | ⟨_, none⟩)
    · exact aborts
    · exact absurd none List.not_mem_nil
  | own act _ kept leads _ ih =>
    subst leads
    obtain ⟨chain', ranked'⟩ := ranked.act act
    rintro (_ | ⟨_, later⟩)
    · exact kept stay rfl
    · exact ih ranked' (within.trans_le (ranked.size_le_act act)) stay later
  | child levels creates inside _ =>
    obtain ⟨rfl, grows, -, chain', ranked'⟩ := ranked.newChild creates
    rintro (_ | ⟨_, later⟩)
    have older := inside.younger ranked' grows _ later
    exact absurd within (Nat.not_lt.mpr older)
  | append first _ _ ihFirst ihSecond =>
    obtain ⟨chain', ranked'⟩ := ranked.replay first
    intro mem
    rcases List.mem_append.mp mem with sooner | later
    · exact ihFirst ranked within stay sooner
    · exact ihSecond ranked' (within.trans_le (ranked.size_le_replay first)) stay later

/-- **An emitter that stays is open all the time.** -/
theorem Nested.opened (nested : Nested true i family (before ++ after) aborted)
    (ranked : family.Ranked chain) (opened : (family.frame i).closed = false) :
    ((family.replay before).frame i).closed = false := by
  have within := lt_size_of_open opened
  apply ranked.open_replay opened
  · intro act mem
    exact nested.younger ranked within act (List.mem_append_left _ mem)
  · intro mem
    exact nested.close_not_mem ranked within rfl (List.mem_append_left _ mem)

/-! ### Breaking off -/

/-- The acts break off with one that has no answer, on an emitter that was closed by
one of them, or on the emitter that is given if it was closed before. -/
def BreaksOff (family : Family) (i : FrameId) (acts : List Act) : Prop :=
  ∃ before act, acts = before ++ [act] ∧ (family.replay before).Aborts act ∧
    (.close act.emitter ∈ before ∨ act.emitter = i ∧ (family.frame i).closed = true)

theorem Ranked.breaksOff_append (ranked : family.Ranked chain)
    (younger : ∀ act ∈ lead, i ≤ act.emitter)
    (later : (family.replay lead).BreaksOff i acts) : family.BreaksOff i (lead ++ acts) := by
  obtain ⟨before, act, rfl, aborts, shut⟩ := later
  refine ⟨lead ++ before, act, (List.append_assoc ..).symm, ?_, ?_⟩
  · rw [replay_append]
    exact aborts
  · rcases shut with closed | ⟨here, closed⟩
    · exact .inl (List.mem_append_right lead closed)
    · -- The emitter was closed all along, or one of the acts in front has closed it.
      by_cases mem : .close i ∈ lead
      · exact .inl (here ▸ List.mem_append_left before mem)
      · refine .inr ⟨here, ?_⟩
        by_contra opened
        have still := ranked.open_replay (Bool.eq_false_of_not_eq_true opened) younger mem
        exact Bool.false_ne_true (still.symm.trans closed)

/-- **Nested acts break off on an emitter that was closed among them**, or on their
own if it was closed before. -/
theorem Nested.breaksOff (nested : Nested stays i family acts aborted)
    (ranked : family.Ranked chain) (within : i < family.frames.size) (abort : aborted = true) :
    family.BreaksOff i acts := by
  induction nested generalizing chain with
  | nil => cases abort
  | abort act here aborts =>
    have closed := (aborts_iff.mp aborts).2
    exact ⟨[], act, rfl, aborts, .inr ⟨here, here ▸ closed⟩⟩
  | own act here _ leads _ ih =>
    subst leads
    obtain ⟨chain', ranked'⟩ := ranked.act act
    have later := ih ranked' (within.trans_le (ranked.size_le_act act)) abort
    have younger : ∀ other ∈ [act], _ ≤ other.emitter := fun other mem =>
      List.mem_singleton.mp mem ▸ here.ge
    exact ranked.breaksOff_append younger later
  | child levels creates _ ih =>
    obtain ⟨rfl, grows, opened, chain', ranked'⟩ := ranked.newChild creates
    obtain ⟨before, act, rfl, aborts, shut⟩ := ih ranked' grows abort
    rcases shut with closed | ⟨-, closed⟩
    · rw [← act_newChild creates] at aborts
      exact ⟨.newChild _ levels :: before, act, rfl, aborts, .inl (List.mem_cons_of_mem _ closed)⟩
    · exact absurd (opened.symm.trans closed) Bool.false_ne_true
  | append first sooner _ _ ihSecond =>
    obtain ⟨chain', ranked'⟩ := ranked.replay first
    have later := ihSecond ranked' (within.trans_le (ranked.size_le_replay first)) abort
    exact ranked.breaksOff_append (sooner.younger ranked within) later

/-! ### What is left -/

/-- **A script that keeps its place gives its emitter back**, unless it is aborted. -/
theorem Chained.restored (chained : family.Chained chain) (opened : (family.frame i).closed = false)
    (childless : (family.frame i).child = none) {script : Script ε} (keeps : script.KeepsPlace)
    (continued : (script.run i family).ending ≠ .aborted) :
    let frame := (script.run i family).family.frame i
    frame.closed = false ∧ frame.child = none ∧ frame.level = (family.frame i).level ∧
      frame.scopes = (family.frame i).scopes := by
  obtain ⟨outer, below, rfl⟩ := List.append_of_mem (chained.open_iff_mem.mp opened)
  obtain rfl := chained.below_eq_nil childless
  have takes := script.run_takes (.inl chained)
  rw [takes.ending] at continued
  have moves := takes.moves continued
  have openedAlone : (family.frame i).alone.closed = false := opened
  obtain ⟨fresh, left⟩ := keeps.returns openedAlone continued
  have here := moves.here.trans left
  have stillOpen := (congrArg Frame.closed here).trans opened
  exact ⟨stillOpen, (moves.trails.chained stillOpen).childless_last,
    congrArg (fun frame => frame.level) here, congrArg (fun frame => frame.scopes) here⟩

/-- Whenever a script releases a scope, there is one to pop, or the emitter is
closed. -/
theorem releases_of_acts (width : Nat) (done : List Act) {script : Script ε}
    (split : script.acts i ((root width).replay done) = before ++ .release j :: after) :
    (((root width).replay done).replay before).Releases j := by
  have reached : ((Custody.start width).along done).family = (root width).replay done :=
    Custody.along_family ..
  have lawful := (script.keeps_acts i ((Custody.start width).along done)).lawful
  rw [reached, split] at lawful
  have held := (Custody.lawful_append.mp lawful).2.1 j rfl
  have balanced := ((Custody.balanced_start width).along done).along before
  have releases := balanced.releases held
  rwa [Custody.along_family, reached] at releases

/-- **Nested scripts give their emitter back, also on failure.** After any acts, take
an open emitter without a child and a script that neither closes nor resets it. What
the script does to the emitter itself always has an answer, and whenever it releases
a scope, there is one to pop. The script is aborted only by an act on a child of its
own making that it has closed before. Otherwise, whether the script was done, refused
or failed, the emitter is open, has no child, and is at its level and in its scopes. -/
theorem replay_restored (width : Nat) (acts : List Act) (i : FrameId) (script : Script ε)
    (opened : ((root width).replay acts).isClosed i = false)
    (childless : (((root width).replay acts).frame i).child = none)
    (keeps : script.KeepsPlace) :
    let family := (root width).replay acts
    let run := script.run i family
    (∀ before act after, script.acts i family = before ++ act :: after → act.emitter = i →
      ¬ (family.replay before).Aborts act ∧
        (act = .release i → (family.replay before).Pops ((family.replay before).release i) i)) ∧
    (run.ending = .aborted → ∃ before act, script.acts i family = before ++ [act] ∧
      (family.replay before).Aborts act ∧ family.frames.size ≤ act.emitter ∧
        .close act.emitter ∈ before) ∧
    (run.ending ≠ .aborted → run.family.isClosed i = false ∧
      (run.family.frame i).child = none ∧
      (run.family.frame i).level = (family.frame i).level ∧
      (run.family.frame i).scopes = (family.frame i).scopes) := by
  intro family run
  obtain ⟨chain, ranked⟩ := (ranked_root width).replay acts
  have within := lt_size_of_open opened
  have nested := script.nested true (fun _ => keeps) i family
  refine ⟨?_, ?_, ?_⟩
  · intro before act after split here
    rw [split] at nested
    have stillOpen := nested.opened ranked opened
    constructor
    · intro aborts
      have closed : (family.replay before).isClosed i = true := here ▸ (aborts_iff.mp aborts).2
      exact Bool.false_ne_true (stillOpen.symm.trans closed)
    · rintro rfl
      rcases releases_of_acts width acts split with ⟨closed, -⟩ | ⟨-, pops⟩
      · exact absurd (stillOpen.symm.trans closed) Bool.false_ne_true
      · exact pops
  · intro aborted
    rw [aborted] at nested
    obtain ⟨before, act, split, aborts, shut⟩ := nested.breaksOff ranked within rfl
    rcases shut with closed | ⟨-, closed⟩
    · refine ⟨before, act, split, aborts, ?_, closed⟩
      rcases nested.emitter_of_mem ranked act (by simp [split]) with here | newer
      · have mem : .close i ∈ script.acts i family := by
          rw [split, ← here]
          exact List.mem_append_left _ closed
        exact absurd mem (nested.close_not_mem ranked within rfl)
      · exact newer
    · exact absurd (opened.symm.trans closed) Bool.false_ne_true
  · exact ranked.restored opened childless keeps

/-- A script on a child in a scope, which fails in a scope and a block of a grandchild
that it has reset and closed. -/
theorem replay_restored_failing :
    let family := (root 4).replay
      [.newChild 0 1, .openBlock 1 (.indentWith "\x7d" true), .line 1 "x"]
    let script : Script Unit := .scope ⟨2, some ")", false⟩
      (.child 1 (.reset (.block (.withClosing ";") (.write "a" (.close (.fail ()))) .done)) .done)
      (.line "b" .done)
    let run := script.run 1 family
    family.isClosed 1 = false ∧ (family.frame 1).child = none ∧ script.KeepsPlace ∧
      run.ending = .failed () ∧ run.family.isClosed 1 = false ∧
      (run.family.frame 1).child = none ∧
      (run.family.frame 1).level = (family.frame 1).level ∧
      (run.family.frame 1).scopes = (family.frame 1).scopes := by
  intro family script run
  have opened : family.isClosed 1 = false := by decide
  have childless : (family.frame 1).child = none := by decide
  have keeps : script.KeepsPlace := ⟨trivial, trivial⟩
  have failed : run.ending = .failed () := by decide
  have restored := (replay_restored 4 _ 1 script opened childless keeps).2.2
  exact ⟨opened, childless, keeps, failed, restored (by rw [failed]; nofun)⟩

end Family

end Bindery.Layout

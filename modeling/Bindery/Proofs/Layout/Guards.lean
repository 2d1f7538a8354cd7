/-
The guards that scripts and sessions release.

A guard in custody can always be dropped, so it remains to see that nobody
releases a guard twice or without having been given one. A script is given a
guard at the start of a block and drops it at the end, unless it is aborted; a
session drops the guards that it has handed out and that are alive. The main
statements are

* `Script.keeps_acts` and `Session.Covered.served_step`, that scripts and
  operations release only guards that are in custody;
* `Session.perform_guards`, that every release, in every state that a session can
  reach and inside of its scripts too, finds its emitter closed or a scope to pop.
-/

import Bindery.Proofs.Layout.Custody
import Mathlib.Data.List.ReduceOption

namespace Bindery.Layout

variable {ε : Type}

/-- The emitter on which an act releases a scope. -/
def Act.released? : Act → Option FrameId
  | .release i => some i
  | _ => none

namespace Custody

variable {custody : Custody} {i : FrameId}

/-! ### Releasing what is in custody -/

/-- Every release among the acts drops a guard that is in custody. -/
def Lawful : Custody → List Act → Prop
  | _, [] => True
  | custody, act :: acts =>
    (∀ i ∈ act.released?, i ∈ custody.held) ∧ (custody.record act).Lawful acts

theorem lawful_append {first second : List Act} :
    custody.Lawful (first ++ second) ↔
      custody.Lawful first ∧ (custody.along first).Lawful second := by
  induction first generalizing custody with
  | nil =>
    rw [List.nil_append, Lawful, true_and]
    rfl
  | cons act first ih =>
    rw [List.cons_append, Lawful, Lawful, ih, and_assoc]
    rfl

/-- Acts that release only what is in custody, and leave all guards that they
found. -/
structure Keeps (custody : Custody) (acts : List Act) : Prop where
  lawful : custody.Lawful acts
  held : custody.held ≤ (custody.along acts).held

theorem keeps_nil (custody : Custody) : custody.Keeps [] :=
  ⟨trivial, le_rfl⟩

theorem Keeps.append {first second : List Act} (keeps : custody.Keeps first)
    (goesOn : (custody.along first).Keeps second) : custody.Keeps (first ++ second) where
  lawful := lawful_append.mpr ⟨keeps.lawful, goesOn.lawful⟩
  held := by
    rw [along_append]
    exact keeps.held.trans goesOn.held

theorem held_le_record {act : Act} (noRelease : act.released? = none) :
    custody.held ≤ (custody.record act).held := by
  cases act with
  | openScope i scope =>
    rw [record]
    cases custody.family.openScope i scope with
    | error reason => exact le_rfl
    | ok after => exact Multiset.le_cons_self custody.held i
  | openBlock i scope =>
    rw [record]
    cases custody.family.openBlock i scope with
    | none => exact le_rfl
    | some after => exact Multiset.le_cons_self custody.held i
  | release i => cases noRelease
  | _ => exact le_rfl

theorem Keeps.cons {act : Act} {acts : List Act} (noRelease : act.released? = none)
    (keeps : (custody.record act).Keeps acts) : custody.Keeps (act :: acts) where
  lawful := ⟨fun i released => absurd (noRelease ▸ released) (Option.not_mem_none i), keeps.lawful⟩
  held := (held_le_record noRelease).trans keeps.held

theorem keeps_act {act : Act} (noRelease : act.released? = none) : custody.Keeps [act] :=
  .cons noRelease (keeps_nil _)

/-- A guard that is given in front of some acts may be dropped behind them. -/
theorem Keeps.guarded {act : Act} {body : List Act}
    (given : (custody.record act).held = i ::ₘ custody.held) (noRelease : act.released? = none)
    (inside : (custody.record act).Keeps body) : custody.Keeps (act :: body ++ [.release i]) := by
  -- The body may leave guards of its own behind, but it drops none that it found.
  have more : i ::ₘ custody.held ≤ (custody.along (act :: body)).held := given ▸ inside.held
  refine ⟨lawful_append.mpr ⟨(Keeps.cons noRelease inside).lawful, ?_, trivial⟩, ?_⟩
  · rintro j ⟨⟩
    exact Multiset.mem_of_le more (Multiset.mem_cons_self _ _)
  · rw [along_append]
    calc custody.held = (i ::ₘ custody.held).erase i := (Multiset.erase_cons_head i _).symm
      _ ≤ (custody.along (act :: body)).held.erase i := Multiset.erase_le_erase i more

end Custody

/-! ### The guards of a script -/

section Script

variable {custody : Custody} {i : FrameId}

theorem Run.keeps_actsThen {run : Run ε} {acts : Family → List Act}
    (same : custody.family = run.family)
    (follows : ∀ custody : Custody, custody.Keeps (acts custody.family)) :
    custody.Keeps (run.actsThen acts) := by
  obtain ⟨ending, family⟩ := run
  obtain rfl : custody.family = family := same
  cases ending with
  | done => exact follows custody
  | refused | failed | aborted => exact custody.keeps_nil

/-- An act that has no answer on a closed emitter, and what follows its answer. -/
theorem Custody.keeps_elim {act : Act} {answer : Option Family} {next : Family → List Act}
    (noRelease : act.released? = none)
    (answers : custody.family.act act = answer.getD custody.family)
    (follows : ∀ custody : Custody, custody.Keeps (next custody.family)) :
    custody.Keeps (act :: answer.elim [] next) := by
  cases answer with
  | none => exact keeps_act noRelease
  | some after =>
    have same : (custody.record act).family = after := answers
    exact .cons noRelease (same ▸ follows (custody.record act))

/-- What follows a block that was begun by an act and is left by another. -/
theorem Custody.Keeps.leave {act cleanUp : Act} {body : Script ε} {next : Family → List Act}
    (block : custody.Keeps (act :: body.acts i (custody.family.act act) ++
      (body.run i (custody.family.act act)).ending.cleanUp cleanUp))
    (follows : ∀ custody : Custody, custody.Keeps (next custody.family)) :
    custody.Keeps (act :: (body.acts i (custody.family.act act) ++
      (body.run i (custody.family.act act)).ending.cleanUp cleanUp ++
        ((body.run i (custody.family.act act)).leave (·.act cleanUp)).actsThen next)) := by
  refine block.append (Run.keeps_actsThen ?_ follows)
  rw [along_family, Family.replay_append, Run.leave_family, Script.run_family]
  rfl

/-- A block in a scope drops its guard in the end, or leaves it behind when it is
aborted. -/
theorem Custody.keeps_scope {act : Act} {body : Script ε}
    (given : (custody.record act).held = i ::ₘ custody.held) (noRelease : act.released? = none)
    (inside : (custody.record act).Keeps (body.acts i (custody.family.act act))) :
    custody.Keeps (act :: body.acts i (custody.family.act act) ++
      (body.run i (custody.family.act act)).ending.cleanUp (.release i)) := by
  cases (body.run i (custody.family.act act)).ending with
  | aborted => exact (List.append_nil _).symm ▸ .cons noRelease inside
  | done | refused | failed => exact .guarded given noRelease inside

/-- A block on a child closes it in the end, which drops no guard. -/
theorem Custody.keeps_child {act : Act} {body : Script ε} (noRelease : act.released? = none)
    (inside : (custody.record act).Keeps (body.acts i (custody.family.act act))) :
    custody.Keeps (act :: body.acts i (custody.family.act act) ++
      (body.run i (custody.family.act act)).ending.cleanUp (.close i)) := by
  refine (Keeps.cons noRelease inside).append ?_
  cases (body.run i (custody.family.act act)).ending with
  | aborted => exact keeps_nil _
  | done | refused | failed => exact keeps_act rfl

/-- **A script releases only guards that it was given**, and leaves all others. -/
theorem Script.keeps_acts (script : Script ε) (i : FrameId) (custody : Custody) :
    custody.Keeps (script.acts i custody.family) := by
  induction script generalizing i custody with
  | done => exact custody.keeps_nil
  | fail cause => exact custody.keeps_nil
  | write text rest ih => exact Custody.keeps_elim rfl rfl (ih i)
  | line text rest ih => exact Custody.keeps_elim rfl rfl (ih i)
  | reset rest ih => exact Custody.keeps_elim rfl rfl (ih i)
  | close rest ih => exact .cons rfl (ih i (custody.record (.close i)))
  | scope s body rest ihBody ihRest =>
    rw [Script.acts]
    cases opens : custody.family.openScope i s with
    | error reason => exact Custody.keeps_act rfl
    | ok opened =>
      have given : (custody.record (.openScope i s)).held = i ::ₘ custody.held := by
        simp only [Custody.record, opens]
      obtain rfl : custody.family.act (.openScope i s) = opened := by
        simp only [Family.act, opens]
      exact (Custody.keeps_scope given rfl (ihBody i _)).leave (ihRest i)
  | block s body rest ihBody ihRest =>
    rw [Script.acts]
    cases opens : custody.family.openBlock i s with
    | none => exact Custody.keeps_act rfl
    | some opened =>
      have given : (custody.record (.openBlock i s)).held = i ::ₘ custody.held := by
        simp only [Custody.record, opens]
      obtain rfl : custody.family.act (.openBlock i s) = opened := by
        simp only [Family.act, opens, Option.getD_some]
      exact (Custody.keeps_scope given rfl (ihBody i _)).leave (ihRest i)
  | child levels body rest ihBody ihRest =>
    rw [Script.acts]
    cases created : custody.family.newChild i levels with
    | error reason => exact Custody.keeps_act rfl
    | ok pair =>
      obtain ⟨j, after⟩ := pair
      obtain rfl : custody.family.act (.newChild i levels) = after := by
        simp only [Family.act, created]
      exact Custody.Keeps.leave (Custody.keeps_child rfl (ihBody j _)) (ihRest i)
  | writer body rest ihBody ihRest =>
    rw [Script.acts]
    cases lends : custody.family.lend i with
    | none => exact Custody.keeps_act rfl
    | some lent =>
      obtain rfl : custody.family.act (.lend i) = lent := by
        simp only [Family.act, lends, Option.getD_some]
      refine .cons rfl ((ihBody i (custody.record (.lend i))).append ?_)
      refine Run.keeps_actsThen ?_ (ihRest i)
      rw [Custody.along_family, Script.run_family]
      rfl

end Script

/-! ### The guards of a session -/

namespace Session

variable {session : Session} {custody : Custody} {i : FrameId}

/-- The emitters of the guards that are alive, one for each guard. -/
def live (session : Session) : Multiset FrameId :=
  session.guards.toList.reduceOption

theorem count_live (session : Session) (i : FrameId) :
    session.live.count i = session.guards.count (some i) := by
  rw [live, Multiset.coe_count, ← Array.count_toList]
  induction session.guards.toList with
  | nil => rfl
  | cons guard guards ih =>
    cases guard with
    | none => simpa using ih
    | some j => simp [List.count_cons, ih]

theorem getElem?_guards {g : Nat} (alive : session.guards.getD g none = some i) :
    session.guards.toList[g]? = some (some i) := by
  rw [Array.getD_eq_getD_getElem?] at alive
  rw [Array.getElem?_toList]
  cases given : session.guards[g]? with
  | none => simp [given] at alive
  | some guard => simpa [given] using alive

theorem mem_live {g : Nat} (alive : session.guards.getD g none = some i) : i ∈ session.live :=
  List.reduceOption_mem_iff.mpr (List.mem_of_getElem? (getElem?_guards alive))

theorem live_giveGuard (session : Session) (i : FrameId) (family : Family) :
    (session.giveGuard (ε := ε) i family).2.live = i ::ₘ session.live := by
  simp only [giveGuard, live, Array.toList_push, List.reduceOption_append]
  exact Quot.sound List.perm_append_comm

/-- A guard that is retired was one of those alive. -/
theorem reduceOption_perm {guards : List (Option FrameId)} {g : Nat}
    (alive : guards[g]? = some (some i)) :
    guards.reduceOption.Perm (i :: (guards.set g none).reduceOption) := by
  induction guards generalizing g with
  | nil => cases alive
  | cons guard guards ih =>
    cases g with
    | zero =>
      obtain rfl : guard = some i := Option.some.inj alive
      exact .refl _
    | succ g =>
      have rest := ih alive
      cases guard with
      | none => exact rest
      | some j => exact (rest.cons j).trans (.swap i j _)

theorem live_retireGuard {g : Nat} (alive : session.guards.getD g none = some i) :
    session.live = i ::ₘ (session.retireGuard g).live := by
  simp only [retireGuard, live, Array.toList_setIfInBounds]
  exact Quot.sound (reduceOption_perm (getElem?_guards alive))

theorem live_retire_le (session : Session) (handle : Nat) (i : FrameId) :
    (session.retire handle i).live ≤ session.live := by
  rw [Multiset.le_iff_count]
  intro j
  simp only [count_live, retire, ← Array.count_toList, Array.toList_map, List.count,
    List.countP_map]
  apply List.countP_mono_left
  intro guard _
  by_cases same : guard = some i <;> simp [same]

theorem live_settle (session : Session) (answer : Option Family) :
    (session.settle (ε := ε) answer).2.live = session.live := by
  cases answer <;> rfl

/-- The custody has the emitters of the session and all its guards. -/
structure Covered (session : Session) (custody : Custody) : Prop where
  family : custody.family = session.family
  held : session.live ≤ custody.held

/-- The acts release only what is in custody, and the guards that are alive
behind them stay there. -/
structure Served (after : Session) (custody : Custody) (acts : List Act) : Prop where
  lawful : custody.Lawful acts
  held : after.live ≤ (custody.along acts).held

/-- Acts that leave all guards serve a session that gets no new ones. -/
theorem Covered.served {after : Session} {acts : List Act} (covered : session.Covered custody)
    (keeps : custody.Keeps acts) (fewer : after.live ≤ session.live) : after.Served custody acts :=
  ⟨keeps.lawful, (fewer.trans covered.held).trans keeps.held⟩

theorem Covered.served_onEmitter {handle : Nat} {f : FrameId → Reply ε × Session}
    {acts : FrameId → List Act} (covered : session.Covered custody)
    (follows : ∀ i, (f i).2.Served custody (acts i)) :
    (session.onEmitter handle f).2.Served custody (actsOn session.emitters handle acts) := by
  rw [onEmitter, actsOn]
  cases session.emitters.getD handle none with
  | none => exact covered.served custody.keeps_nil le_rfl
  | some i => exact follows i

theorem Covered.served_onGuard {handle : Nat} {f : FrameId → Reply ε × Session}
    {acts : FrameId → List Act} (covered : session.Covered custody)
    (follows : ∀ i, session.guards.getD handle none = some i → (f i).2.Served custody (acts i)) :
    (session.onGuard handle f).2.Served custody (actsOn session.guards handle acts) := by
  rw [onGuard, actsOn]
  cases alive : session.guards.getD handle none with
  | none => exact covered.served custody.keeps_nil le_rfl
  | some i => exact follows i alive

/-- A guard that is given out goes into custody. -/
theorem Covered.served_giveGuard {act : Act} {family : Family} (covered : session.Covered custody)
    (given : (custody.record act).held = i ::ₘ custody.held) (noRelease : act.released? = none) :
    (session.giveGuard (ε := ε) i family).2.Served custody [act] where
  lawful := (Custody.keeps_act noRelease).lawful
  held := by
    rw [live_giveGuard]
    exact given ▸ Multiset.cons_le_cons i covered.held

/-- A guard that is dropped leaves custody. -/
theorem Covered.served_release {g : Nat} (covered : session.Covered custody)
    (alive : session.guards.getD g none = some i) (family : Family) :
    ((session.withFamily family).retireGuard g).Served custody [.release i] := by
  have held : i ::ₘ (session.retireGuard g).live ≤ custody.held :=
    live_retireGuard alive ▸ covered.held
  refine ⟨⟨?_, trivial⟩, ?_⟩
  · rintro j ⟨⟩
    exact Multiset.mem_of_le held (Multiset.mem_cons_self _ _)
  · calc ((session.withFamily family).retireGuard g).live
        = (i ::ₘ (session.retireGuard g).live).erase i := (Multiset.erase_cons_head i _).symm
      _ ≤ custody.held.erase i := Multiset.erase_le_erase i held

/-- **An operation releases only guards that are in custody.** -/
theorem Covered.served_step (covered : session.Covered custody) (op : Op ε) :
    (session.step op).2.Served custody (session.acts op) := by
  cases op with
  | write e text =>
    exact covered.served_onEmitter fun i =>
      covered.served (Custody.keeps_act rfl) (live_settle session _).le
  | line e text =>
    exact covered.served_onEmitter fun i =>
      covered.served (Custody.keeps_act rfl) (live_settle session _).le
  | writer e script =>
    refine covered.served_onEmitter fun i => covered.served ?_ le_rfl
    rw [← covered.family]
    exact Script.keeps_acts _ i custody
  | openScope e scope =>
    refine covered.served_onEmitter fun i => ?_
    cases opens : session.family.openScope i scope with
    | error reason => exact covered.served (Custody.keeps_act rfl) le_rfl
    | ok after =>
      refine covered.served_giveGuard ?_ rfl
      simp only [Custody.record, covered.family, opens]
  | openBlock e scope =>
    refine covered.served_onEmitter fun i => ?_
    cases opens : session.family.openBlock i scope with
    | none => exact covered.served (Custody.keeps_act rfl) le_rfl
    | some after =>
      refine covered.served_giveGuard ?_ rfl
      simp only [Custody.record, covered.family, opens]
  | newChild e levels =>
    refine covered.served_onEmitter fun i => ?_
    cases session.family.newChild i levels with
    | error reason => exact covered.served (Custody.keeps_act rfl) le_rfl
    | ok pair => exact covered.served (Custody.keeps_act rfl) le_rfl
  | reset e =>
    exact covered.served_onEmitter fun i =>
      covered.served (Custody.keeps_act rfl) (live_settle session _).le
  | close e =>
    exact covered.served_onEmitter fun i => covered.served (Custody.keeps_act rfl) le_rfl
  | output e =>
    exact covered.served_onEmitter fun i => covered.served (Custody.keeps_act rfl) le_rfl
  | drop e =>
    exact covered.served_onEmitter fun i =>
      covered.served (Custody.keeps_act rfl) (live_retire_le session e i)
  | finish e =>
    exact covered.served_onEmitter fun i =>
      covered.served (Custody.keeps_act rfl) (live_retire_le session e i)
  | release g => exact covered.served_onGuard fun i alive => covered.served_release alive _
  | forget g =>
    refine covered.served_onGuard fun i alive => covered.served custody.keeps_nil ?_
    rw [live_retireGuard alive]
    exact Multiset.le_cons_self _ i
  | lineThrough g text =>
    exact covered.served_onGuard fun i _ =>
      covered.served (Custody.keeps_act rfl) (live_settle session _).le

theorem covered_start (width : Nat) : (start width).Covered (Custody.start width) :=
  ⟨rfl, le_rfl⟩

/-- So does a whole session, whose guards stay in custody. -/
theorem Covered.perform (covered : session.Covered custody) (ops : List (Op ε)) :
    custody.Lawful (session.history ops) ∧
      (session.perform ops).Covered (custody.along (session.history ops)) := by
  induction ops generalizing session custody with
  | nil => exact ⟨trivial, covered⟩
  | cons op ops ih =>
    have served := covered.served_step op
    have covered' : (session.step op).2.Covered (custody.along (session.acts op)) := by
      refine ⟨?_, served.held⟩
      rw [Custody.along_family, covered.family, step_family]
    obtain ⟨lawful, covered''⟩ := ih covered'
    rw [history, Custody.lawful_append, Custody.along_append]
    exact ⟨⟨served.lawful, lawful⟩, covered''⟩

/-- **Whenever something is about to happen in a session, an open emitter has as
many scopes as guards of it were given and not dropped, and a release, also one
at the end of a block of a script, drops such a guard: it finds its emitter
closed or a scope to pop. So between operations an open emitter has at least as
many scopes as it has guards that are alive, and each of these can be dropped.** -/
theorem perform_guards (width : Nat) (ops : List (Op ε)) :
    let session := (start width).perform ops
    (∀ before after, (start width).history ops = before ++ after →
      let custody := (Custody.start width).along before
      custody.family = (Family.root width).replay before ∧
      (∀ i, custody.family.isClosed i = false →
        (custody.family.frame i).scopes.length = custody.held.count i) ∧
      ∀ i rest, after = .release i :: rest →
        i ∈ custody.held ∧ custody.family.Releases i) ∧
    (∀ i, session.family.isClosed i = false →
      session.guards.count (some i) ≤ (session.family.frame i).scopes.length) ∧
    ∀ g i, session.guards.getD g none = some i → session.family.Releases i := by
  intro session
  have balanced := (Custody.balanced_start width).along
  obtain ⟨lawful, covered⟩ := (covered_start width).perform ops
  refine ⟨?_, ?_, ?_⟩
  · intro before after split custody
    refine ⟨Custody.along_family _ before, (balanced before).counted, ?_⟩
    rintro i rest rfl
    rw [split, Custody.lawful_append] at lawful
    have mem : i ∈ custody.held := lawful.2.1 i rfl
    exact ⟨mem, (balanced before).releases mem⟩
  · intro i opened
    rw [← count_live]
    have counted := (balanced ((start width).history ops)).counted i
    rw [covered.family] at counted
    rw [counted opened]
    exact Multiset.count_le_of_le i covered.held
  · intro g i alive
    have mem := Multiset.mem_of_le covered.held (mem_live alive)
    exact covered.family ▸ (balanced _).releases mem

end Session

end Bindery.Layout

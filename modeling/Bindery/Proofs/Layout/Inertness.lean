/-
Failing calls and closed emitters change nothing.

A call fails for one of a few reasons, and they can all be seen from outside
(`Family.Objection`): a scope or a child that adds no level, an emitter that is
closed, a child that is still open. That the last one is what an emitter checks is
not obvious, for the emitter follows a link, which is dropped from several sides. A
closed emitter is inert: nothing that is done through it or through its guards, by
sessions or by scripts, leaves a trace, and this is so for good. The main
statements are

* `Family.Chained.exists_open_child_iff`, that the link of an emitter leads to a
  child if and only if one of its children is open;
* `Family.Chained.refuses_iff`, that a call is refused for these reasons only;
* `Session.step_of_fails`, that a failing operation leaves the session as it is;
* `Session.step_of_closed`, that an operation on a closed emitter leaves the page and
  all emitters as they are;
* `Session.perform_failures`, all this in every state that a session can reach.
-/

import Bindery.Proofs.Layout.Effects

namespace Bindery.Layout

variable {ε : Type}

namespace Family

/-! ### Reasons -/

/-- Why an act is refused. A reason is given where those before it do not apply. -/
inductive Objection (family : Family) : Act → Refusal → Prop where
  | flatScope {i : FrameId} {scope : Scope} : scope.levels = 0 →
      Objection family (.openScope i scope) .nonPositiveIndent
  | closedForScope {i : FrameId} {scope : Scope} : scope.levels ≠ 0 → family.isClosed i = true →
      Objection family (.openScope i scope) .closed
  | flatChild {i : FrameId} {levels : Nat} : levels = 0 →
      Objection family (.newChild i levels) .nonPositiveIndent
  | closedForChild {i : FrameId} {levels : Nat} : levels ≠ 0 → family.isClosed i = true →
      Objection family (.newChild i levels) .closed
  | childOpen {i j : FrameId} {levels : Nat} : levels ≠ 0 → family.isClosed i = false →
      (family.frame j).parent = some i → family.isClosed j = false →
      Objection family (.newChild i levels) .childAlreadyActive

/-- The act is refused for a reason. -/
def Refuses (family : Family) : Act → Refusal → Prop
  | .openScope i scope, reason => family.openScope i scope = .error reason
  | .newChild i levels, reason => family.newChild i levels = .error reason
  | _, _ => False

variable {family : Family} {chain : List FrameId} {i j : FrameId}

theorem act_of_refuses {act : Act} {reason : Refusal} (refuses : family.Refuses act reason) :
    family.act act = family := by
  cases act with
  | openScope i scope =>
    have refused : family.openScope i scope = .error reason := refuses
    simp only [act, refused]
  | newChild i levels =>
    have refused : family.newChild i levels = .error reason := refuses
    simp only [act, refused]
  | _ => exact refuses.elim

theorem Refuses.unique {act : Act} {reason other : Refusal} (first : family.Refuses act reason)
    (second : family.Refuses act other) : reason = other := by
  cases act with
  | openScope i scope => exact Except.error.inj (first.symm.trans second)
  | newChild i levels => exact Except.error.inj (first.symm.trans second)
  | _ => exact first.elim

namespace Chained

/-- The parent of an open emitter is open and has it for a child. -/
theorem open_parent (chained : family.Chained chain) (opened : (family.frame j).closed = false)
    (parent : (family.frame j).parent = some i) :
    (family.frame i).closed = false ∧ (family.frame i).child = some j := by
  have notRoot : j ≠ 0 := by
    rintro rfl
    cases chain with
    | nil => exact absurd (chained.open_iff_mem.mp opened) List.not_mem_nil
    | cons first rest =>
      obtain rfl := chained.head first rfl
      exact absurd (chained.spine.2.1.symm.trans parent) nofun
  obtain ⟨parent', linked, openParent, child, -⟩ := chained.stands_below opened notRoot
  obtain rfl : i = parent' := Option.some.inj (parent.symm.trans linked)
  exact ⟨openParent, child⟩

/-- **The link of an open emitter leads somewhere if and only if one of its children
is open.** -/
theorem exists_open_child_iff (chained : family.Chained chain)
    (opened : (family.frame i).closed = false) :
    (∃ j, (family.frame j).parent = some i ∧ family.isClosed j = false) ↔
      (family.frame i).child.isSome = true := by
  constructor
  · rintro ⟨j, parent, openChild⟩
    rw [(chained.open_parent openChild parent).2]
    rfl
  · intro linked
    obtain ⟨j, child⟩ := Option.isSome_iff_exists.mp linked
    obtain ⟨before, below, rfl⟩ := List.append_of_mem (chained.open_iff_mem.mp opened)
    obtain ⟨-, -, -, -, -, next, lower⟩ := chained.spine.right
    cases below with
    | nil => exact absurd (next.symm.trans child) nofun
    | cons first rest => exact ⟨first, lower.2.1, lower.1⟩

theorem refuses_of_objection (chained : family.Chained chain) {act : Act} {reason : Refusal}
    (objection : family.Objection act reason) : family.Refuses act reason := by
  cases objection with
  | flatScope flat => exact if_pos flat
  | closedForScope positive closed => exact (if_neg positive).trans (if_pos closed)
  | flatChild flat => exact if_pos flat
  | closedForChild positive closed => exact (if_neg positive).trans (if_pos closed)
  | childOpen positive closed parent opened =>
    have linked := (chained.exists_open_child_iff closed).mp ⟨_, parent, opened⟩
    have notClosed : ¬ family.isClosed _ = true := Bool.not_eq_true _ ▸ closed
    exact (if_neg positive).trans ((if_neg notClosed).trans (if_pos linked))

theorem exists_objection (chained : family.Chained chain) {act : Act} {reason : Refusal}
    (refuses : family.Refuses act reason) : ∃ reason, family.Objection act reason := by
  cases act with
  | openScope i scope =>
    have refused : family.openScope i scope = .error reason := refuses
    by_cases flat : scope.levels = 0
    · exact ⟨_, .flatScope flat⟩
    · cases closed : family.isClosed i with
      | true => exact ⟨_, .closedForScope flat closed⟩
      | false => simp [openScope, flat, closed] at refused
  | newChild i levels =>
    have refused : family.newChild i levels = .error reason := refuses
    by_cases flat : levels = 0
    · exact ⟨_, .flatChild flat⟩
    · cases closed : family.isClosed i with
      | true => exact ⟨_, .closedForChild flat closed⟩
      | false =>
        by_cases linked : (family.frame i).child.isSome = true
        · obtain ⟨j, parent, opened⟩ := (chained.exists_open_child_iff closed).mpr linked
          exact ⟨_, .childOpen flat closed parent opened⟩
        · have created := newChild_eq_ok_iff.mpr
            ⟨⟨flat, closed, Option.not_isSome_iff_eq_none.mp linked⟩, rfl, rfl⟩
          cases created.symm.trans refused
  | _ => exact refuses.elim

/-- **A call is refused for a reason that can be seen.** -/
theorem refuses_iff (chained : family.Chained chain) (act : Act) (reason : Refusal) :
    family.Refuses act reason ↔ family.Objection act reason := by
  constructor
  · intro refuses
    obtain ⟨other, objection⟩ := chained.exists_objection refuses
    rwa [refuses.unique (chained.refuses_of_objection objection)]
  · exact chained.refuses_of_objection

/-- Acts on a closed emitter leave no trace. -/
theorem replay_of_closed (chained : family.Chained chain) {acts : List Act}
    (closed : (family.frame i).closed = true) (here : ∀ act ∈ acts, act.emitter = i) :
    family.replay acts = family := by
  induction acts with
  | nil => rfl
  | cons act acts ih =>
    obtain ⟨first, later⟩ := List.forall_mem_cons.mp here
    have same : family.act act = family := chained.act_of_closed (first ▸ closed)
    show (family.act act).replay acts = family
    rw [same]
    exact ih later

end Chained

end Family

/-! ### Operations -/

/-- Whether the answer tells of a failing call. A script that has failed is no such
answer. -/
def Reply.fails : Reply ε → Bool
  | .refused _ | .aborted | .deadHandle => true
  | _ => false

/-- Whether an operation hands an emitter to a script. -/
def Op.isWriter : Op ε → Bool
  | .writer _ _ => true
  | _ => false

/-- Whether an operation needs an open emitter to have an answer. A script needs one
too, but may also come to its own abort. -/
def Op.needsOpen : Op ε → Bool
  | .write _ _ | .line _ _ | .openBlock _ _ | .reset _ | .lineThrough _ _ => true
  | _ => false

namespace Session

variable {session : Session} {i : FrameId}

/-- The emitter that an operation is performed on, by its handle or by the guard of a
scope. -/
def target? (session : Session) : Op ε → Option FrameId
  | .write e _ | .line e _ | .writer e _ | .openScope e _ | .openBlock e _ | .newChild e _
  | .reset e | .close e | .output e | .drop e | .finish e => session.emitters.getD e none
  | .release g | .forget g | .lineThrough g _ => session.guards.getD g none

theorem onEmitter_of_fails {handle : Nat} {f : FrameId → Reply ε × Session}
    (same : ∀ i, (f i).1.fails = true → (f i).2 = session)
    (fails : (session.onEmitter handle f).1.fails = true) :
    (session.onEmitter handle f).2 = session := by
  rw [onEmitter] at fails ⊢
  cases alive : session.emitters.getD handle none with
  | none => rfl
  | some i =>
    rw [alive] at fails
    exact same i fails

theorem onGuard_of_fails {handle : Nat} {f : FrameId → Reply ε × Session}
    (same : ∀ i, (f i).1.fails = true → (f i).2 = session)
    (fails : (session.onGuard handle f).1.fails = true) :
    (session.onGuard handle f).2 = session := by
  rw [onGuard] at fails ⊢
  cases alive : session.guards.getD handle none with
  | none => rfl
  | some i =>
    rw [alive] at fails
    exact same i fails

theorem settle_of_fails {answer : Option Family}
    (fails : (session.settle (ε := ε) answer).1.fails = true) :
    (session.settle (ε := ε) answer).2 = session := by
  cases answer with
  | none => rfl
  | some family => cases fails

/-- **A failing operation leaves the session as it is.** -/
theorem step_of_fails (op : Op ε) (noScript : op.isWriter = false)
    (fails : (session.step op).1.fails = true) : (session.step op).2 = session := by
  cases op with
  | write e text => exact onEmitter_of_fails (fun i => settle_of_fails) fails
  | line e text => exact onEmitter_of_fails (fun i => settle_of_fails) fails
  | reset e => exact onEmitter_of_fails (fun i => settle_of_fails) fails
  | lineThrough g text => exact onGuard_of_fails (fun i => settle_of_fails) fails
  | writer e script => cases noScript
  | openScope e scope =>
    refine onEmitter_of_fails (fun i fails => ?_) fails
    cases opens : session.family.openScope i scope with
    | error reason => rfl
    | ok family =>
      rw [opens] at fails
      cases fails
  | openBlock e scope =>
    refine onEmitter_of_fails (fun i fails => ?_) fails
    cases opens : session.family.openBlock i scope with
    | none => rfl
    | some family =>
      rw [opens] at fails
      cases fails
  | newChild e levels =>
    refine onEmitter_of_fails (fun i fails => ?_) fails
    cases created : session.family.newChild i levels with
    | error reason => rfl
    | ok pair =>
      rw [created] at fails
      cases fails
  | close e => exact onEmitter_of_fails (fun i => nofun) fails
  | output e => exact onEmitter_of_fails (fun i => nofun) fails
  | drop e => exact onEmitter_of_fails (fun i => nofun) fails
  | finish e => exact onEmitter_of_fails (fun i => nofun) fails
  | release g => exact onGuard_of_fails (fun i => nofun) fails
  | forget g => exact onGuard_of_fails (fun i => nofun) fails

/-- What an operation does on a closed emitter, it does there alone. -/
theorem emitter_of_mem_acts {op : Op ε} {act : Act} (target : session.target? op = some i)
    (closed : session.family.isClosed i = true) (mem : act ∈ session.acts op) :
    act.emitter = i := by
  cases op with
  | writer e script =>
    have alive : session.emitters.getD e none = some i := target
    have shut : session.family.lend i = none := by rw [Family.lend, if_pos closed]
    simp only [acts, actsOn, alive, Option.elim_some, Script.acts, shut, List.mem_singleton] at mem
    rw [mem]
    rfl
  | forget g =>
    have alive : session.guards.getD g none = some i := target
    simp [acts, actsOn, alive] at mem
  | release g | lineThrough g text =>
    have alive : session.guards.getD g none = some i := target
    simp only [acts, actsOn, alive, Option.elim_some, List.mem_singleton] at mem
    rw [mem]
    rfl
  | write e text | line e text | openScope e scope | openBlock e scope | newChild e levels
  | reset e | close e | output e | drop e | finish e =>
    have alive : session.emitters.getD e none = some i := target
    simp only [acts, actsOn, alive, Option.elim_some, List.mem_singleton] at mem
    rw [mem]
    rfl

/-- **An operation on a closed emitter leaves the page and all emitters as they
are**, be it performed by its handle or through a guard. -/
theorem step_of_closed {chain : List FrameId} (chained : session.family.Chained chain) {op : Op ε}
    (target : session.target? op = some i) (closed : session.family.isClosed i = true) :
    (session.step op).2.family = session.family := by
  rw [step_family]
  exact chained.replay_of_closed closed fun act mem => emitter_of_mem_acts target closed mem

/-- An operation that needs an open emitter is aborted if and only if it finds a closed
one. -/
theorem step_aborted_iff {op : Op ε} (target : session.target? op = some i)
    (needs : op.needsOpen = true) :
    (session.step op).1 = .aborted ↔ session.family.isClosed i = true := by
  cases op with
  | write e text | line e text | reset e =>
    have alive : session.emitters.getD e none = some i := target
    cases closed : session.family.isClosed i <;>
      simp [step, onEmitter, alive, Family.write, Family.writeLine, Family.reset, closed, settle]
  | lineThrough g text =>
    have alive : session.guards.getD g none = some i := target
    cases closed : session.family.isClosed i <;>
      simp [step, onGuard, alive, Family.writeLine, closed, settle]
  | openBlock e scope =>
    have alive : session.emitters.getD e none = some i := target
    cases closed : session.family.isClosed i <;>
      simp [step, onEmitter, alive, Family.openBlock, closed, giveGuard]
  | _ => cases needs

theorem step_openScope_refused_iff {e : Nat} (alive : session.emitters.getD e none = some i)
    (scope : Scope) (reason : Refusal) :
    (session.step (.openScope e scope : Op ε)).1 = .refused reason ↔
      session.family.Refuses (.openScope i scope) reason := by
  simp only [step, onEmitter, alive, Family.Refuses]
  cases session.family.openScope i scope <;> simp [giveGuard]

theorem step_newChild_refused_iff {e : Nat} (alive : session.emitters.getD e none = some i)
    (levels : Nat) (reason : Refusal) :
    (session.step (.newChild e levels : Op ε)).1 = .refused reason ↔
      session.family.Refuses (.newChild i levels) reason := by
  simp only [step, onEmitter, alive, Family.Refuses]
  cases session.family.newChild i levels <;> simp [giveEmitter]

theorem step_writer_of_closed {e : Nat} (alive : session.emitters.getD e none = some i)
    (closed : session.family.isClosed i = true) (script : Script ε) :
    session.step (.writer e script) = (.aborted, session) := by
  simp only [step, onEmitter, alive, Script.run, Family.lend, closed, if_true]
  rfl

theorem step_writer_of_open {e : Nat} (alive : session.emitters.getD e none = some i)
    (opened : session.family.isClosed i = false) (script : Script ε) :
    let run := script.run i (session.family.closeChild i)
    session.step (.writer e script) = (run.ending.reply, session.withFamily run.family) := by
  intro run
  have whole : (Script.writer script .done).run i session.family = run := by
    simp only [Script.run, Family.lend, opened, Bool.false_eq_true, if_false, Run.andThen]
    split
    · rename_i done
      exact congrArg (Run.mk · run.family) done.symm
    · rfl
  simp only [step, onEmitter, alive, whole]

/-- **Failing calls change nothing, and closed emitters are inert.** Whenever
something is about to happen in a session, inside of its scripts too, a scope or a
child is refused exactly for the reasons that can be seen, and the other calls that
can fail have no answer exactly on a closed emitter; a call that fails, and any call
on a closed emitter, leaves the page and all emitters as they are; a closed emitter
is closed for good, and so are those below it. Operations on a live handle are
answered accordingly, a script being aborted before it starts. A failing operation
leaves the session as it is, and once an emitter is closed, no operation by its
handle or through its guards reaches the page or any emitter. -/
theorem perform_failures (width : Nat) (ops : List (Op ε)) :
    let session := (start width).perform ops
    (∀ before after, (start width).history ops = before ++ after →
      let family := (Family.root width).replay before
      (∀ act reason, family.Refuses act reason ↔ family.Objection act reason) ∧
      (∀ act, family.Aborts act ↔ act.needsOpen = true ∧ family.isClosed act.emitter = true) ∧
      (∀ act, (∃ reason, family.Refuses act reason) ∨ family.Aborts act ∨
        family.isClosed act.emitter = true → family.act act = family) ∧
      (∀ i < family.frames.size, family.isClosed i = true →
        ∀ acts, (family.replay acts).isClosed i = true) ∧
      ∀ i parent, (family.frame i).parent = some parent → family.isClosed parent = true →
        family.isClosed i = true) ∧
    (∀ e i, session.emitters.getD e none = some i →
      (∀ scope reason, (session.step (.openScope e scope : Op ε)).1 = .refused reason ↔
        session.family.Objection (.openScope i scope) reason) ∧
      (∀ levels reason, (session.step (.newChild e levels : Op ε)).1 = .refused reason ↔
        session.family.Objection (.newChild i levels) reason) ∧
      ∀ script : Script ε,
        (session.family.isClosed i = true →
          session.step (.writer e script) = (.aborted, session)) ∧
        (session.family.isClosed i = false →
          let run := script.run i (session.family.closeChild i)
          session.step (.writer e script) = (run.ending.reply, session.withFamily run.family))) ∧
    (∀ (op : Op ε) i, session.target? op = some i → op.needsOpen = true →
      ((session.step op).1 = .aborted ↔ session.family.isClosed i = true)) ∧
    (∀ op : Op ε, op.isWriter = false → (session.step op).1.fails = true →
      (session.step op).2 = session) ∧
    ∀ i < session.family.frames.size, session.family.isClosed i = true →
      ∀ (later : List (Op ε)) (op : Op ε),
        let now := session.perform later
        now.target? op = some i → (now.step op).2.family = now.family := by
  intro session
  have reachable : ∀ acts, ∃ chain, ((Family.root width).replay acts).Chained chain :=
    (Family.chained_root width).replay
  have current : session.family = (Family.root width).replay ((start width).history ops) :=
    perform_family (start width) ops
  obtain ⟨chain, chained⟩ := reachable ((start width).history ops)
  rw [← current] at chained
  refine ⟨?_, ?_, fun op i target needs => step_aborted_iff target needs,
    fun op noScript fails => step_of_fails op noScript fails, ?_⟩
  · intro before after _ family
    obtain ⟨chain, chained⟩ := reachable before
    refine ⟨chained.refuses_iff, fun act => Family.aborts_iff, ?_, ?_, ?_⟩
    · rintro act (⟨reason, refuses⟩ | aborts | closed)
      · exact Family.act_of_refuses refuses
      · exact chained.act_of_closed (Family.aborts_iff.mp aborts).2
      · exact chained.act_of_closed closed
    · intro i old closed acts
      exact chained.closed_replay acts old closed
    · intro i parent linked closed
      by_contra opened
      have openParent := chained.open_parent (Bool.eq_false_of_not_eq_true opened) linked
      exact Bool.false_ne_true (openParent.1.symm.trans closed)
  · intro e i alive
    refine ⟨?_, ?_, fun script => ⟨?_, ?_⟩⟩
    · intro scope reason
      rw [step_openScope_refused_iff alive, chained.refuses_iff]
    · intro levels reason
      rw [step_newChild_refused_iff alive, chained.refuses_iff]
    · exact fun closed => step_writer_of_closed alive closed script
    · exact fun opened => step_writer_of_open alive opened script
  · intro i old closed later op now target
    have moved : now.family = session.family.replay (session.history later) :=
      perform_family session later
    obtain ⟨chain', chained'⟩ := chained.replay (session.history later)
    have stillClosed := chained.closed_replay (session.history later) old closed
    rw [← moved] at chained' stillClosed
    exact step_of_closed chained' target stillClosed

end Session

end Bindery.Layout

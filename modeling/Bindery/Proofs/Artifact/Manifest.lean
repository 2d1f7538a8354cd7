/-
What a manifest lists.

A target is asked about the contexts in the order of the forest, its answers are
stored by the numbers of the contexts, and the manifest reads them back in the
order of the forest. The main statements are

* `getD_storeByContext`, what is read where answers were stored one after the
  other;
* `Aggregate.manifest_collect`, that the manifest is what the target has answered,
  in order, where the forest lists issued contexts only.
-/

import Bindery.Artifact.Target
import Mathlib.Data.List.Basic

namespace Bindery

/-! ### Storing by context -/

section Storing

variable {α : Type}

/-- What is read after some contexts were given something: it stays given when a
context comes up again. -/
theorem getD_foldl_setIfInBounds (answer : ContextId → List α) (ids : List ContextId)
    (stored : Array (List α)) (id : ContextId) :
    ((ids.map fun id => (id, answer id)).foldl
        (fun stored entry => stored.setIfInBounds entry.1 entry.2) stored).getD id [] =
      if id ∈ ids ∧ id < stored.size then answer id else stored.getD id [] := by
  induction ids generalizing stored with
  | nil => simp
  | cons first rest ih =>
    have one : (stored.setIfInBounds first (answer first)).getD id [] =
        if first = id ∧ id < stored.size then answer id else stored.getD id [] := by
      rw [Array.getD_eq_getD_getElem?, Array.getElem?_setIfInBounds, Array.getD_eq_getD_getElem?]
      by_cases here : first = id
      · subst here
        by_cases issued : first < stored.size <;> simp [issued]
      · simp [here]
    rw [List.map_cons, List.foldl_cons, ih, Array.size_setIfInBounds, one]
    by_cases later : id ∈ rest
    · by_cases issued : id < stored.size <;> simp [later, issued]
    · by_cases here : first = id
      · simp [later, here]
      · simp [later, here, Ne.symm here]

/-- **Every issued context that was asked has its answer**, and no other context has
anything. -/
theorem getD_storeByContext (contexts : Nat) (answer : ContextId → List α)
    (ids : List ContextId) (id : ContextId) :
    (storeByContext contexts (ids.map fun id => (id, answer id))).getD id [] =
      if id ∈ ids ∧ id < contexts then answer id else [] := by
  have none : (Array.replicate contexts ([] : List α)).getD id [] = [] := by
    rw [Array.getD_eq_getD_getElem?, Array.getElem?_replicate]
    split <;> rfl
  rw [storeByContext, getD_foldl_setIfInBounds, Array.size_replicate, none]

end Storing

/-! ### Manifests -/

namespace Aggregate

variable {γ : Type} (aggregate : Aggregate γ) (target : Target γ)

/-- The artifacts that a collection has for a context. -/
theorem artifactsAt_collect (id : ContextId) :
    (aggregate.collect target).artifactsAt id =
      if id ∈ aggregate.forest.preOrder ∧ id < aggregate.forest.size then
        target.contextArtifacts aggregate id
      else [] :=
  getD_storeByContext _ (target.contextArtifacts aggregate) _ id

/-- **The manifest is what the target has answered**: about each context in the
order of the forest, and then about the library. -/
theorem manifest_collect (issued : ∀ id ∈ aggregate.forest.preOrder, id < aggregate.forest.size) :
    (aggregate.collect target).manifest =
      aggregate.forest.preOrder.flatMap (target.contextArtifacts aggregate) ++
        (aggregate.collect target).defaultArtifacts := by
  have each : aggregate.forest.preOrder.flatMap (aggregate.collect target).artifactsAt =
      aggregate.forest.preOrder.flatMap (target.contextArtifacts aggregate) := by
    apply List.flatMap_congr
    intro id mem
    rw [artifactsAt_collect, if_pos ⟨mem, issued id mem⟩]
  rw [← each]
  rfl

end Aggregate

end Bindery

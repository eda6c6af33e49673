import StoryWorld.Proofs.Graph.Faults
import StoryWorld.Proofs.Store.Consistency

/-!
# Loading snapshots

A store takes every valid snapshot as it is, since no two of its elements are bound to one identity
(`load_snapshot`), and refuses any other for its first fault. So what can be loaded is just what a
store can hold: the snapshot of each store that an editing session reaches can be loaded again.
`load_exact` says all this.
-/

set_option autoImplicit false

namespace StoryWorld

namespace Store

variable {store after : Store} {world : Snapshot}

/-- A valid world is loaded as it is. -/
theorem load_snapshot (start : Store) (accepted : world.validate = .ok ()) :
    ∃ store, start.load world = .ok store ∧ store.Sound ∧ store.snapshot = world := by
  have valid := Snapshot.validate_eq_ok_iff.1 accepted
  refine ⟨_, start.load_eq accepted, sound_of_valid valid start.settings, ?_⟩
  rw [snapshot, Table.values_ofList_map valid.nodes_nodup,
    Table.values_ofList_map valid.edges_nodup]

/-- What is loaded is valid, and stands alone in the store. -/
theorem load_eq_ok (loaded : store.load world = .ok after) :
    world.validate = .ok () ∧ after.selection = none ∧ after.settings = store.settings := by
  obtain ⟨⟨⟩, accepted, loaded⟩ := bind_eq_ok_iff.1 loaded
  cases pure_eq_ok_iff.1 loaded
  exact ⟨accepted, rfl, rfl⟩

theorem load_eq_error_iff {why : Refusal} :
    store.load world = .error why ↔ world.validate = .error why := by
  constructor
  · intro refused
    cases verdict : world.validate with
    | ok =>
      rw [store.load_eq verdict] at refused
      cases refused
    | error fault =>
      rw [load, verdict] at refused
      cases refused
      rfl
  · intro refused
    rw [load, refused]
    rfl

/-- **Loading takes the valid snapshots as they are and refuses any other for its first fault.**
Whatever the store holds before, a snapshot can be loaded just if it is valid. Then the snapshot of
the store is the one that was loaded, in the same order; nothing is selected, and the settings are
those of before. If it is not valid, the refusal names the first fault of the snapshot. And whatever
an editing session has consisted of, the snapshot of the store that it reaches can be loaded into a
new store, which has the same snapshot again. -/
theorem load_exact :
    (∀ (store : Store) (world : Snapshot),
      ((∃ after, store.load world = .ok after) ↔ world.Valid) ∧
      (∀ after, store.load world = .ok after →
        after.snapshot = world ∧ after.selection = none ∧ after.settings = store.settings) ∧
      (∀ why, store.load world = .error why ↔ world.FirstFault why)) ∧
    ∀ (settings others : GraphSettings) (operations : List Operation),
      ∃ after,
        (Store.empty others).load ((Store.empty settings).run operations).snapshot = .ok after ∧
          after.snapshot = ((Store.empty settings).run operations).snapshot := by
  refine ⟨fun store world => ⟨⟨?_, ?_⟩, ?_, ?_⟩, ?_⟩
  · rintro ⟨after, loaded⟩
    exact Snapshot.validate_eq_ok_iff.1 (load_eq_ok loaded).1
  · intro valid
    obtain ⟨after, loaded, -⟩ := load_snapshot store (Snapshot.validate_eq_ok_iff.2 valid)
    exact ⟨after, loaded⟩
  · intro after loaded
    obtain ⟨accepted, unselected, kept⟩ := load_eq_ok loaded
    obtain ⟨copy, again, -, same⟩ := load_snapshot store accepted
    rw [again] at loaded
    cases loaded
    exact ⟨same, unselected, kept⟩
  · exact fun why => load_eq_error_iff.trans Snapshot.validate_eq_error_iff
  · intro settings others operations
    have valid := (run_consistent settings operations).2
    obtain ⟨after, loaded, -, same⟩ := load_snapshot (Store.empty others) valid
    exact ⟨after, loaded, same⟩

end Store

end StoryWorld

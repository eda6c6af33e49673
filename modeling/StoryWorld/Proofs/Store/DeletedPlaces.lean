import StoryWorld.Proofs.Lore.WithoutPlace
import StoryWorld.Proofs.Store.Cascades
import StoryWorld.Proofs.Store.Loading

/-!
# Entries after a location has been deleted

When a location is deleted in a store whose edges join what they may join, its snapshot is left
without the place (`Consistent.snapshot_without`). So the lorebook changes in few places only, which
`delete_place_local` lists: the entry of the location is gone, the other locations are no longer
triggered by it, and the tables of those that spawn by spawn edges lose the words of the place.
-/

set_option autoImplicit false

namespace StoryWorld

/-- Values are selected with their keys. -/
theorem Table.values_filter {κ α : Type} {table : Table κ α} {keep : κ → Bool} {kept : α → Bool}
    (agree : ∀ entry ∈ table.entries, keep entry.1 = kept entry.2) :
    (table.filter fun key _ => keep key).values = table.values.filter kept := by
  rw [values, values, List.filter_map]
  exact congrArg (List.map Prod.snd) (List.filter_congr agree)

namespace Store

variable {store : Store} {world : Snapshot}

/-- What is left of the world when a location is deleted is the world without the place. -/
theorem Consistent.snapshot_without (consistent : store.Consistent)
    (conforms : store.snapshot.Conforms) {id : ElementId} {gone : Removal}
    (found : store.removal id = .ok gone) (isNode : id ∈ store.nodes.keys) :
    (store.without gone).snapshot = store.snapshot.withoutPlace id := by
  rcases removal_cases found with ⟨isEdge, -⟩ | ⟨-, nodes, edges⟩
  · exact absurd isEdge (consistent.disjoint id isNode)
  rw [snapshot, Snapshot.withoutPlace, without, Snapshot.mk.injEq]
  constructor
  · refine Table.values_filter fun entry member => decide_eq_decide.2 ?_
    have here := Table.get?_eq_some_iff.2 member
    rw [nodes, consistent.mem_doomedNodes_iff here, consistent.node_id entry.1 entry.2 here,
      ← not_or]
    exact not_congr (and_iff_right (mem_keys_of_get? here))
  · refine Table.values_filter fun entry member => decide_eq_decide.2 ?_
    have here := Table.get?_eq_some_iff.2 member
    have inside : entry.2 ∈ store.snapshot.edges := Table.mem_values_iff.2 ⟨entry.1, here⟩
    -- An end is no sublocation, so it goes just if it is the place itself.
    have doomed : ∀ tip, entry.2.source = tip ∨ entry.2.target = tip →
        (tip ∈ store.doomedNodes id ↔ tip = id) := by
      intro tip ends
      obtain ⟨node, isEnd, own, free⟩ := conforms.exists_end inside ends
      obtain ⟨key, there⟩ := Table.mem_values_iff.1 isEnd
      rw [← own, consistent.node_id key node there, consistent.mem_doomedNodes_iff there, free,
        or_iff_left (Option.some_ne_none id).symm]
    rw [edges, consistent.mem_doomedEdges_iff here, doomed _ (Or.inl rfl), doomed _ (Or.inr rfl),
      ← not_or]
    exact not_congr (and_iff_right (Table.mem_keys_iff.2 ⟨_, here⟩))

/-- **Deleting a location changes the lorebook in its places only.** Take a valid world in which
every edge joins what it may join and no two locations are spoken of by one word. It can be loaded
into every store; and from every sound store that holds it, however it came to hold it, each
location can be deleted. Before, the lorebook has the entry of each node that has one. After, it has
in the same order what is left of the entry of each of these nodes but the location: the entry
without the first keyword of the place among the triggers if it is of a location, the entry without
the words of the place in its spawn table if it is of a character or of an event that does not
happen anywhere, and else the entry as it was. -/
theorem delete_place_local (accepted : world.validate = .ok ()) (conforms : world.Conforms)
    (apart : world.WordsApart) {place : Node} (isPlace : place ∈ world.nodesOf .location) :
    (∀ start : Store, ∃ store, start.load world = .ok store ∧ store.Sound ∧
        store.snapshot = world) ∧
      world.entries = world.subjects.map world.entryOf ∧
      ∀ store : Store, store.Sound → store.snapshot = world → ∃ after gone,
        store.delete place.id = .ok (after, gone) ∧
          after.snapshot.entries =
            (world.subjects.filter fun node => decide (node.id ≠ place.id)).map
              (world.leftEntry place) := by
  refine ⟨fun start => load_snapshot start accepted, world.entries_eq_map_subjects, ?_⟩
  rintro store sound rfl
  have consistent := sound.consistent
  have isNode : place.id ∈ store.nodes.keys := by
    obtain ⟨key, here⟩ := Table.mem_values_iff.1 (Snapshot.mem_nodesOf.1 isPlace).1
    rw [consistent.node_id key place here]
    exact mem_keys_of_get? here
  obtain ⟨gone, found⟩ := exists_removal (Or.inl isNode)
  refine ⟨_, gone, delete_eq found, ?_⟩
  rw [consistent.snapshot_without conforms found isNode]
  exact Snapshot.entries_withoutPlace consistent.valid_snapshot isPlace conforms apart

/-- Without the old town the port is triggered by nothing, and the brawl is nowhere any more; the
fog still happens anywhere. -/
theorem harbour_without_town :
    let town : Node :=
      { Node.blank ⟨"town"⟩ "Old Town" .location with keywords := ["town"], position := ⟨7, 9⟩ }
    harbour.validate = .ok () ∧ harbour.Conforms ∧ harbour.WordsApart ∧
      town ∈ harbour.nodesOf .location ∧
        ∃ store after gone, (Store.empty {}).load harbour = .ok store ∧
          store.delete ⟨"town"⟩ = .ok (after, gone) ∧
            (harbour.entries.map fun entry => (entry.name, entry.triggers, entry.spawnTable.keys)) =
              [("Port", ["town"], []), ("Old Town", ["port"], []), ("Jack", ["Mary"], []),
                ("Mary", ["Jack"], ["port"]), ("Fog", [], ["any"]),
                ("Brawl", [], ["town", "Tavern"])] ∧
            (after.snapshot.entries.map fun entry =>
                (entry.name, entry.triggers, entry.spawnTable.keys)) =
              [("Port", [], []), ("Jack", ["Mary"], []), ("Mary", ["Jack"], ["port"]),
                ("Fog", [], ["any"]), ("Brawl", [], [])] := by
  intro town
  have accepted : harbour.validate = .ok () := by decide +kernel
  have conforms : harbour.Conforms := by
    unfold Snapshot.Conforms
    decide +kernel
  have apart : harbour.WordsApart := by
    constructor <;> decide +kernel
  have isPlace : town ∈ harbour.nodesOf .location := by decide +kernel
  obtain ⟨loads, -, deletes⟩ := delete_place_local accepted conforms apart isPlace
  obtain ⟨store, loaded, sound, same⟩ := loads (Store.empty {})
  obtain ⟨after, gone, deleted, entries⟩ := deletes store sound same
  refine ⟨accepted, conforms, apart, isPlace, store, after, gone, loaded, deleted, ?_, ?_⟩
  · decide +kernel
  · rw [entries]
    decide +kernel

end Store

end StoryWorld

import StoryWorld.Proofs.Lore.Counterparts
import StoryWorld.Proofs.Lore.References

/-!
# Worlds whose overrides are current

The overrides of a spawn edge go by the names of sublocations, and nothing but the name ties an
override to its sublocation. Where every override greater than zero is named after a sublocation
that the target of the edge has (`Snapshot.OverridesCurrent`), every key of an exported spawn table
stands for a place of the world. So an import of the entries finds no place that is not there
(`importEntries_findsPlaces`).
-/

set_option autoImplicit false

namespace StoryWorld

namespace Snapshot

/-- Every spawn edge leads to a location, and each of its overrides greater than zero is named after
a sublocation of it. -/
def OverridesCurrent (world : Snapshot) : Prop :=
  ∀ edge ∈ world.edgesOf .spawn,
    (∃ place ∈ world.nodesOf .location, place.id = edge.target) ∧
      ∀ override ∈ edge.kind.overrides.entries, 0 < override.2 →
        ∃ room ∈ world.sublocationsOf edge.target, room.name = override.1

variable {world : Snapshot}

theorem locationEntry_mem_entries {place : Node} (member : place ∈ world.nodesOf .location) :
    world.locationEntry place ∈ world.entries := by
  rw [entries_eq]
  exact List.mem_append_left _ (List.mem_map_of_mem member)

/-- A character or an event refers to no places but those that its spawn edges speak of. -/
theorem placeKeys_castEntry {node : Node} {key : String}
    (listed : key ∈ (world.castEntry node).placeKeys) : key ∈ (world.spawnTable node.id).keys := by
  unfold Entry.placeKeys at listed
  split at listed
  · cases listed
  · rename_i bound
    have here : node.isGlobalEvent = false :=
      Bool.eq_false_iff.2 fun anywhere => bound (isAnywhere_castEntry anywhere)
    rwa [spawnTable_castEntry here] at listed

/-- What the spawn edges of a world with current overrides speak of are its places. -/
theorem OverridesCurrent.declared (current : world.OverridesCurrent) (valid : world.Valid)
    {id : ElementId} {key : String} (listed : key ∈ (world.spawnTable id).keys) :
    HasKeyword world.entries .location key ∨ HasSublocation world.entries key := by
  obtain ⟨spawn, said, rfl⟩ := List.mem_map.1 (Table.mem_keys_ofList.1 listed)
  obtain ⟨edge, member, -, said⟩ := mem_spawns.1 said
  obtain ⟨⟨place, isPlace, there⟩, rooms⟩ := current edge member
  have entry := locationEntry_mem_entries isPlace
  rcases mem_edgeSpawns.1 said with ⟨overrides, -, known⟩ | ⟨override, positive⟩
  · rw [← there, valid.keyword?_eq (mem_nodesOf.1 isPlace).1] at known
    exact Or.inl ⟨_, entry, rfl, List.mem_map_of_mem (List.mem_of_mem_head? known)⟩
  · obtain ⟨room, isRoom, named⟩ := rooms _ override positive
    rw [← there] at isRoom
    exact Or.inr ⟨_, entry, rfl, List.mem_map_of_mem
      (mem_sublocationNames_locationEntry.2 ⟨room, isRoom, named⟩)⟩

/-- No reference of a spawn table is lost. -/
theorem OverridesCurrent.not_mem_unresolved (current : world.OverridesCurrent)
    (valid : world.Valid) (name key : String) :
    .unresolvedReference name .canSpawnAt key ∉ unresolvedReferences world.entries := by
  intro member
  rcases List.mem_append.1 member with member | member
  · rcases List.mem_append.1 member with member | member
    · obtain ⟨entry, isEntry, lost⟩ := List.mem_flatMap.1 member
      obtain ⟨other, isLost, same⟩ := List.mem_map.1 lost
      obtain ⟨listed, undeclared⟩ := List.mem_filter.1 isLost
      obtain ⟨inside, isCast⟩ := List.mem_filter.1 isEntry
      rw [entries_eq] at inside
      rcases List.mem_append.1 inside with places | cast
      · obtain ⟨place, -, rfl⟩ := List.mem_map.1 places
        exact absurd rfl (of_decide_eq_true isCast).not_isLocation
      · obtain ⟨node, -, rfl⟩ := List.mem_map.1 cast
        have declared := current.declared valid (placeKeys_castEntry listed)
        simp [declared] at undeclared
    · obtain ⟨entry, -, lost⟩ := List.mem_flatMap.1 member
      obtain ⟨other, -, same⟩ := List.mem_map.1 lost
      cases same
  · obtain ⟨entry, -, lost⟩ := List.mem_flatMap.1 member
    obtain ⟨other, -, same⟩ := List.mem_map.1 lost
    cases same

end Snapshot

/-- An import of the entries of a valid world with current overrides finds every place that the
spawn tables refer to. It fails only where there are not enough ordinals. -/
theorem importEntries_findsPlaces {world : Snapshot} (valid : world.Valid)
    (current : world.OverridesCurrent) (config : Config) :
    (∃ outcome, importEntries config world.entries = .ok outcome ∧
      ∀ name key, .unresolvedReference name .canSpawnAt key ∉ outcome.report.findings) ∨
      (importEntries config world.entries = .error (.refused (.idsExhausted .node)) ∧
        ElementId.maxOrdinal < (importDraft config world.entries).nodes.length) ∨
      (importEntries config world.entries = .error (.refused (.idsExhausted .edge)) ∧
        ElementId.maxOrdinal < (importDraft config world.entries).edges.length) := by
  refine (importEntries_cases config world.entries).imp_left fun imported => ?_
  refine ⟨_, imported, fun name key member => ?_⟩
  apply current.not_mem_unresolved valid name key
  rw [← (honours_importDraft config world.entries).unresolved]
  exact List.mem_filter.2 ⟨member, rfl⟩

end StoryWorld

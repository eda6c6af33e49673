import StoryWorld.Lore.Comparison
import StoryWorld.Proofs.Lore.ImportOrder
import StoryWorld.Proofs.Lore.ImportedNodes
import StoryWorld.Proofs.Related

/-!
# Nodes and the places of their entries

The entries of a world are those of its locations, of its characters and of its events, each in the
order of the nodes (`Snapshot.ofCategory_location` and so on). An import places them in the same
order, so whatever the world, each of its nodes is paired with the placement of its own entry.
-/

set_option autoImplicit false

namespace StoryWorld

namespace Snapshot

variable (world : Snapshot)

/-- Entries that are all of one category are kept or left out together. -/
theorem ofCategory_map {category own : Category} {nodes : List Node} {entryOf : Node → Entry}
    (typed : ∀ node, (entryOf node).category = own) :
    ofCategory category (nodes.map entryOf) = if own = category then nodes.map entryOf else [] := by
  unfold ofCategory
  split
  · rename_i same
    refine List.filter_eq_self.2 fun entry member => ?_
    obtain ⟨node, -, rfl⟩ := List.mem_map.1 member
    exact decide_eq_true ((typed node).trans same)
  · rename_i other
    refine List.filter_eq_nil_iff.2 fun entry member => ?_
    obtain ⟨node, -, rfl⟩ := List.mem_map.1 member
    simp [typed node, other]

theorem ofCategory_entries (category : Category) :
    ofCategory category world.entries =
      (if .location = category then (world.nodesOf .location).map world.locationEntry else []) ++
        (if .character = category then (world.nodesOf .character).map world.characterEntry
          else []) ++
        (if .event = category then (world.nodesOf .event).map world.eventEntry else []) := by
  have locations := @ofCategory_map category .location (world.nodesOf .location)
    world.locationEntry fun _ => rfl
  have characters := @ofCategory_map category .character (world.nodesOf .character)
    world.characterEntry fun _ => rfl
  have events := @ofCategory_map category .event (world.nodesOf .event) world.eventEntry
    fun _ => rfl
  rw [← locations, ← characters, ← events]
  unfold ofCategory entries
  rw [List.filter_append, List.filter_append]

theorem ofCategory_location :
    ofCategory .location world.entries = (world.nodesOf .location).map world.locationEntry := by
  simp [ofCategory_entries]

theorem ofCategory_character :
    ofCategory .character world.entries =
      (world.nodesOf .character).map world.characterEntry := by
  simp [ofCategory_entries]

theorem ofCategory_event :
    ofCategory .event world.entries = (world.nodesOf .event).map world.eventEntry := by
  simp [ofCategory_entries]

/-! ## Placements -/

variable (config : Config)

theorem forall₂_locationPlacements :
    List.Forall₂ (fun node placed => placed.entry = world.locationEntry node)
      (world.nodesOf .location) (locationPlacements config world.entries.length world.items) := by
  apply forall₂_of_map_eq
  rw [map_entry_locationPlacements, map_snd_items]
  exact world.ofCategory_location

theorem forall₂_characterPlacements :
    List.Forall₂ (fun node placed => placed.entry = world.characterEntry node)
      (world.nodesOf .character)
      ((castPlacements config world.entries.length world.items).filter fun placed =>
        decide (placed.entry.category = .character)) := by
  apply forall₂_of_map_eq
  rw [map_entry_characterPlacements, map_snd_items]
  exact world.ofCategory_character

theorem forall₂_eventPlacements :
    List.Forall₂ (fun node placed => placed.entry = world.eventEntry node)
      (world.nodesOf .event)
      ((castPlacements config world.entries.length world.items).filter fun placed =>
        decide (placed.entry.category = .event)) := by
  apply forall₂_of_map_eq
  rw [map_entry_eventPlacements, map_snd_items]
  exact world.ofCategory_event

end Snapshot

end StoryWorld

import StoryWorld.Proofs.Lore.Counterparts
import StoryWorld.Proofs.Lore.Exported
import StoryWorld.Proofs.Store.Consistency

/-!
# Sublocations in the entries of their locations

A lorebook knows a sublocation by its name only. The entry of a location has a place for each name
that its sublocations go by, in the order in which the names first come, and shows the images of the
last one of each name (`Snapshot.ListsByName`). So every sublocation of a store is mentioned in the
entry of its location (`Store.run_listsSublocations`), and every one is shown there with its own
images just if no two of the same location share a name.

Nothing keeps them from sharing one: names are free texts, and sublocations that are added without a
name all get the same. The images of the first of them are then in no entry
(`Store.twoCellars_collapse`).
-/

set_option autoImplicit false

namespace StoryWorld

/-- The sublocations that an entry lists; none where there is no table. -/
def Entry.listed (entry : Entry) : Table String SublocationEntry :=
  entry.subLocations.getD .empty

namespace Snapshot

/-- The entry shows each sublocation of the location with its own images, and no other. -/
def ListsEach (world : Snapshot) (place : Node) (entry : Entry) : Prop :=
  (∀ room ∈ world.sublocationsOf place.id,
      entry.listed.get? room.name = some ⟨room.images.cleaned⟩) ∧
    entry.listed.size = (world.sublocationsOf place.id).length

instance (world : Snapshot) (place : Node) (entry : Entry) :
    Decidable (world.ListsEach place entry) :=
  inferInstanceAs (Decidable (_ ∧ _))

/-- The entry has the names of the sublocations of the location, each once, and under a name the
images of the last sublocation that goes by it. -/
structure ListsByName (world : Snapshot) (place : Node) (entry : Entry) : Prop where
  names : entry.listed.keys = distinct ((world.sublocationsOf place.id).map Node.name)
  last : ∀ before room after, world.sublocationsOf place.id = before ++ room :: after →
    (∀ later ∈ after, later.name ≠ room.name) →
    entry.listed.get? room.name = some ⟨room.images.cleaned⟩

namespace ListsByName

variable {world : Snapshot} {place : Node} {entry : Entry}

/-- There are as many sublocations in the entry as there are names. -/
theorem size_eq (lists : world.ListsByName place entry) :
    entry.listed.size = (distinct ((world.sublocationsOf place.id).map Node.name)).length := by
  rw [← lists.names, Table.keys, List.length_map, Table.size]

/-- Each sublocation is shown just if no two share a name. -/
theorem listsEach_iff (lists : world.ListsByName place entry) :
    world.ListsEach place entry ↔ ((world.sublocationsOf place.id).map Node.name).Nodup := by
  have whole : entry.listed.size = (world.sublocationsOf place.id).length ↔
      ((world.sublocationsOf place.id).map Node.name).Nodup := by
    rw [← length_distinct_iff, ← lists.size_eq, List.length_map]
  refine ⟨fun each => whole.1 each.2, fun nodup => ⟨fun room member => ?_, whole.2 nodup⟩⟩
  obtain ⟨before, after, split⟩ := List.append_of_mem member
  refine lists.last before room after split fun later inside same => ?_
  rw [split, List.map_append, List.map_cons] at nodup
  have alone := (List.nodup_cons.1 (List.nodup_append.1 nodup).2.1).1
  exact alone (same ▸ List.mem_map_of_mem inside)

end ListsByName

/-- The entry of a location lists its sublocations by name. -/
theorem locationEntry_listsByName (world : Snapshot) (place : Node) :
    world.ListsByName place (world.locationEntry place) := by
  have listed : (world.locationEntry place).listed = world.sublocationTable place.id :=
    getD_nonempty? _
  constructor
  case names =>
    rw [listed, sublocationTable, Table.keys_ofList, List.map_map]
    rfl
  case last =>
    intro before room after split unrepeated
    rw [listed, sublocationTable, split, List.map_append, List.map_cons]
    refine Table.get?_ofList_append _ fun pair member => ?_
    obtain ⟨later, inside, rfl⟩ := List.mem_map.1 member
    exact unrepeated later inside

end Snapshot

namespace Store

open Snapshot

/-- **Every sublocation of a store is listed by its name.** Whatever operations have been asked of a
new store, each stored sublocation lies in a stored location; and the entries of the locations, in
the order of the nodes, list the sublocations by name, and each of them with its own images just if
no two of the location share a name. -/
theorem run_listsSublocations (settings : GraphSettings) (operations : List Operation) :
    let world := ((Store.empty settings).run operations).snapshot
    (∀ room ∈ world.nodesOf .sublocation,
        ∃ place ∈ world.nodesOf .location, room ∈ world.sublocationsOf place.id) ∧
      List.Forall₂
        (fun place entry =>
          world.ListsByName place entry ∧
            (world.ListsEach place entry ↔
              ((world.sublocationsOf place.id).map Node.name).Nodup))
        (world.nodesOf .location) (ofCategory .location world.entries) := by
  intro world
  have valid : world.Valid := ((Sound.empty settings).run operations).consistent.valid_snapshot
  constructor
  · intro room member
    obtain ⟨inside, typed⟩ := mem_nodesOf.1 member
    obtain ⟨parent, placed⟩ := Node.parent_of_type typed
    obtain ⟨place, stored, rfl, isLocation⟩ := valid.parents room inside parent placed
    exact ⟨place, mem_nodesOf.2 ⟨stored, isLocation⟩, mem_sublocationsOf.2 ⟨inside, placed⟩⟩
  · rw [ofCategory_location, List.forall₂_map_right_iff, List.forall₂_same]
    intro place member
    have lists := world.locationEntry_listsByName place
    exact ⟨lists, lists.listsEach_iff⟩

/-- Two cellars of one inn, the first with an image. -/
def twoCellars : List Operation :=
  let inn : ElementId := .numbered (.node .location) 1
  [.addNode .location none, .addSublocation inn "Cellar",
    .patchNode (.numbered (.node .sublocation) 2)
      { images := some (.ofList [("day", .one "barrels.png")]) },
    .addSublocation inn "Cellar"]

/-- The entry of the inn lists one cellar, without images. -/
theorem twoCellars_collapse :
    let world := ((Store.empty {}).run twoCellars).snapshot
    (∀ snapshot, .load snapshot ∉ twoCellars) ∧
      ∃ inn, world.nodesOf .location = [inn] ∧ world.entries = [world.locationEntry inn] ∧
        (world.sublocationsOf inn.id).map (fun room => (room.name, room.images.cleaned)) =
          [("Cellar", .ofList [("day", .many ["barrels.png"])]), ("Cellar", .empty)] ∧
        (world.locationEntry inn).subLocations = some (.ofList [("Cellar", ⟨.empty⟩)]) ∧
        ¬ world.ListsEach inn (world.locationEntry inn) := by
  intro world
  have alone : (world.nodesOf .location).length = 1 := by decide +kernel
  obtain ⟨inn, only⟩ := List.length_eq_one_iff.1 alone
  have collapse : ∀ inn ∈ world.nodesOf .location,
      world.entries = [world.locationEntry inn] ∧
        (world.sublocationsOf inn.id).map (fun room => (room.name, room.images.cleaned)) =
          [("Cellar", .ofList [("day", .many ["barrels.png"])]), ("Cellar", .empty)] ∧
        (world.locationEntry inn).subLocations = some (.ofList [("Cellar", ⟨.empty⟩)]) ∧
        ¬ world.ListsEach inn (world.locationEntry inn) := by decide +kernel
  exact ⟨by simp [twoCellars], inn, only, collapse inn (by simp [only])⟩

end Store

end StoryWorld

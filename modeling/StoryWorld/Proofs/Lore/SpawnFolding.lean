import StoryWorld.Proofs.Lore.OutcomeOrder
import StoryWorld.Proofs.RecordedMentions

/-!
# Spawn tables folded into edges

The spawn table of an entry is flat: a key stands for a location or for a sublocation of one, by any
of several words, and with a value. The spawn edges of its node are nested: one for each location,
with a probability for the location and overrides for its sublocations by name.

What the edges are is said by what the table mentions key by key. The locations that it mentions,
themselves or in a sublocation, are the targets of the edges, in the order of their first mention.
The probability of a location is the value of its last mention by a word of its own, and the default
one where it is only mentioned through sublocations, whatever the order of the keys. The overrides
record the sublocations by their declared names (`Snapshot.FoldsAt`).

`importEntries_foldsSpawns` is the statement about all lists of entries.
-/

set_option autoImplicit false

namespace StoryWorld

/-- The location where a place is: a location itself, or the one that a sublocation belongs to. -/
def Place.home : Place → ElementId
  | .location id => id
  | .sublocation ref => ref.parent

namespace Snapshot

/-! ## What a spawn table mentions -/

/-- The key at the position stands for the place. -/
def PlaceMention (world : Snapshot) (spawns : List (String × Float)) (position : ℕ) (place : Place)
    (value : Float) : Prop :=
  ∃ key, spawns[position]? = some (key, value) ∧ world.place? key = some place

/-- The key at the position stands for the location or for a sublocation of it. -/
def HomeMention (world : Snapshot) (spawns : List (String × Float)) (position : ℕ)
    (home : ElementId) (value : Float) : Prop :=
  ∃ place, world.PlaceMention spawns position place value ∧ place.home = home

/-- The key at the position stands for a sublocation of the location, which is declared under the
name. -/
def RoomMention (world : Snapshot) (spawns : List (String × Float)) (home : ElementId)
    (position : ℕ) (name : String) (value : Float) : Prop :=
  ∃ ref, world.PlaceMention spawns position (.sublocation ref) value ∧ ref.parent = home ∧
    ref.name = name

/-! ## What spawn edges say of it -/

/-- The spawn edges from a node, in order. -/
def spawnsFrom (world : Snapshot) (id : ElementId) : List Edge :=
  (world.edgesOf .spawn).filter fun edge => decide (edge.source = id)

/-- A probability and overrides are what a spawn table says of a location. -/
structure FoldsAt (world : Snapshot) (settings : GraphSettings) (spawns : List (String × Float))
    (home : ElementId) (probability : Float) (overrides : Table String Float) : Prop where
  /-- The probability is that of the last key for the location itself, or else the default. -/
  probability : Table.LastMentioned (world.PlaceMention spawns) (.location home) probability ∨
    (∀ position value, ¬ world.PlaceMention spawns position (.location home) value) ∧
      probability = settings.defaultSpawnProbability
  /-- The overrides are the sublocations of the location that the table mentions, in the order of
  their first mention and with the value of their last one. -/
  overrides : overrides.Records (world.RoomMention spawns home)

/-- The spawn edges of a node fold the spawn table of its entry. -/
structure FoldsSpawns (world : Snapshot) (settings : GraphSettings) (entry : Entry) (node : Node) :
    Prop where
  made : entry.Makes node
  isGlobal : node.isGlobalEvent = entry.isAnywhere
  /-- An event that happens anywhere has no spawn edges. -/
  anywhere : node.isGlobalEvent = true → world.spawnsFrom node.id = []
  /-- Edges lead to the locations that the table mentions, themselves or in a sublocation. -/
  targets : node.isGlobalEvent = false → ∀ home,
    (∃ edge ∈ world.spawnsFrom node.id, edge.target = home) ↔
      ∃ position value, world.HomeMention entry.spawnTable.entries position home value
  /-- The edges are in the order in which their targets are first mentioned. -/
  order : node.isGlobalEvent = false → ((world.spawnsFrom node.id).map Edge.target).Pairwise
    (Table.MentionedBefore (world.HomeMention entry.spawnTable.entries))
  edges : ∀ edge ∈ world.spawnsFrom node.id, ∃ probability overrides,
    edge.kind = .spawn probability overrides ∧
      world.FoldsAt settings entry.spawnTable.entries edge.target probability overrides

/-- The sublocations that words stand for are told apart by their declared names. -/
def TellsRooms (world : Snapshot) : Prop :=
  ∀ word other room namesake, world.place? word = some (.sublocation room) →
    world.place? other = some (.sublocation namesake) → room.name = namesake.name →
      room = namesake

/-- What a spawn table says of each place, by the place. -/
def placeTable (world : Snapshot) (spawns : List (String × Float)) : Table Place Float :=
  .ofList (spawns.filterMap fun spawn => (world.place? spawn.1).map (·, spawn.2))

theorem records_placeTable (world : Snapshot) (spawns : List (String × Float)) :
    (world.placeTable spawns).Records (world.PlaceMention spawns) := by
  refine (Table.records_ofList_filterMap ..).congr fun position place value => ?_
  constructor
  · rintro ⟨⟨key, _⟩, listed, told⟩
    obtain ⟨_, found, same⟩ := Option.map_eq_some_iff.1 told
    cases same
    exact ⟨key, listed, found⟩
  · rintro ⟨key, listed, found⟩
    refine ⟨(key, value), listed, ?_⟩
    simp only [found, Option.map_some]

/-- The last value for a place is that of its last mention. -/
theorem get?_placeTable (world : Snapshot) (spawns : List (String × Float)) (place : Place) :
    (world.placeTable spawns).get? place = world.lastValue? spawns place := by
  refine Table.get?_ofList_filterMap fun spawn => ?_
  cases found : world.place? spawn.1 with
  | none => simp
  | some other => by_cases same : other = place <;> simp [same, Option.filter]

end Snapshot

open Snapshot

namespace Draft

section Whole

variable {config : Config} {total : Nat} {items : List (Nat × Entry)} {last : Draft}
  (whole : Assembled config total items last [])

include whole

/-! ## What the table of a draft records -/

/-- A key leads to where its place is. -/
theorem Assembled.home?_eq (key : String) :
    last.home? key = (last.outcome.world.place? key).map Place.home := by
  rw [whole.place?_eq, home?]
  cases last.namedLocation? key with
  | some id => rfl
  | none => cases last.namedSublocation? key <;> rfl

/-- The locations that a table leads to are recorded from its keys. -/
theorem Assembled.exists_records_homes (spawns : List (String × Float)) :
    ∃ table : Table ElementId Float, table.keys = last.homes spawns ∧
      table.Records (last.outcome.world.HomeMention spawns) := by
  refine ⟨.ofList (spawns.filterMap fun spawn => (last.home? spawn.1).map (·, spawn.2)), ?_, ?_⟩
  · rw [Table.keys_ofList, List.map_filterMap, homes]
    simp only [Option.map_map, Function.comp_def, Option.map_id']
  · refine (Table.records_ofList_filterMap ..).congr fun position home value => ?_
    simp only [whole.home?_eq]
    constructor
    · rintro ⟨⟨key, _⟩, listed, told⟩
      obtain ⟨_, leads, same⟩ := Option.map_eq_some_iff.1 told
      cases same
      obtain ⟨place, found, rfl⟩ := Option.map_eq_some_iff.1 leads
      exact ⟨place, ⟨key, listed, found⟩, rfl⟩
    · rintro ⟨place, ⟨key, listed, found⟩, rfl⟩
      refine ⟨(key, value), listed, ?_⟩
      simp only [found, Option.map_some]

/-- The overrides of a location are recorded from the keys for its sublocations. -/
theorem Assembled.records_overridesAt (spawns : List (String × Float)) (home : ElementId) :
    (Table.ofList (last.overridesAt spawns home)).Records
      (last.outcome.world.RoomMention spawns home) := by
  refine (Table.records_ofList_filterMap ..).congr fun position name value => ?_
  constructor
  · rintro ⟨⟨key, _⟩, listed, told⟩
    obtain ⟨ref, chosen, same⟩ := Option.map_eq_some_iff.1 told
    cases same
    obtain ⟨named, inside⟩ := Option.filter_eq_some_iff.1 chosen
    exact ⟨ref, ⟨key, listed, whole.place?_eq_sublocation_iff.2 named⟩, of_decide_eq_true inside,
      rfl⟩
  · rintro ⟨ref, ⟨key, listed, found⟩, rfl, rfl⟩
    refine ⟨(key, value), listed, Option.map_eq_some_iff.2 ⟨ref, ?_, rfl⟩⟩
    exact Option.filter_eq_some_iff.2
      ⟨whole.place?_eq_sublocation_iff.1 found, decide_eq_true rfl⟩

/-- What is found of a location folds what the table says of it. -/
theorem Assembled.foldsAt (settings : GraphSettings) (spawns : List (String × Float))
    (home : ElementId) :
    last.outcome.world.FoldsAt settings spawns home (chanceAt settings last spawns home)
      (.ofList (last.overridesAt spawns home)) where
  probability := by
    have records := last.outcome.world.records_placeTable spawns
    rw [whole.chanceAt_eq_lastValue?, ← get?_placeTable]
    cases found : (last.outcome.world.placeTable spawns).get? (.location home) with
    | some value => exact Or.inl ((records.last _ value).1 found)
    | none =>
      refine Or.inr ⟨fun position value mention => ?_, rfl⟩
      exact Table.get?_eq_none_iff.1 found ((records.keys _).2 ⟨position, value, mention⟩)
  overrides := whole.records_overridesAt spawns home

/-- Sublocations are told apart by the names under which they are declared. -/
theorem Assembled.tellsRooms : last.outcome.world.TellsRooms := by
  intro word other room namesake found alsoFound same
  have named := get?_name_of_namedSublocation? whole.indexed
    (whole.place?_eq_sublocation_iff.1 found)
  have alsoNamed := get?_name_of_namedSublocation? whole.indexed
    (whole.place?_eq_sublocation_iff.1 alsoFound)
  rw [same, alsoNamed] at named
  exact (Option.some.inj named).symm

/-! ## The edges of one node -/

/-- The spawn edges of a node are the links of its table, in order. -/
theorem Assembled.map_link_spawnsFrom {placed : Placement}
    (member : placed ∈ castPlacements config total items) :
    (last.outcome.world.spawnsFrom placed.id).map Edge.link =
      placed.spawnLinks config.graph last := by
  have own : ∀ one ∈ castPlacements config total items,
      ∀ link ∈ one.spawnLinks config.graph last, link.source = one.id :=
    fun _ _ _ inside => source_of_mem_spawnLinks inside
  have made := filter_flatMap_of_mem Link.source whole.nodup_cast own member
  rw [← whole.map_link_spawns, List.filter_map] at made
  exact made

/-- The spawn edges of a node that is no global event are made location by location. -/
theorem Assembled.map_link_spawnsFrom_eq {placed : Placement}
    (member : placed ∈ castPlacements config total items)
    (bound : placed.entry.isAnywhere = false) :
    (last.outcome.world.spawnsFrom placed.id).map Edge.link =
      (last.homes placed.entry.spawnTable.entries).map fun home =>
        ⟨placed.id, home, .spawn (chanceAt config.graph last placed.entry.spawnTable.entries home)
          (.ofList (last.overridesAt placed.entry.spawnTable.entries home))⟩ := by
  rw [whole.map_link_spawnsFrom member, Placement.spawnLinks, bound,
    if_neg Bool.false_ne_true, entries_spawnTargets, List.map_map]
  rfl

theorem Assembled.map_target_spawnsFrom {placed : Placement}
    (member : placed ∈ castPlacements config total items)
    (bound : placed.entry.isAnywhere = false) :
    (last.outcome.world.spawnsFrom placed.id).map Edge.target =
      last.homes placed.entry.spawnTable.entries := by
  have targets := congrArg (List.map Link.target) (whole.map_link_spawnsFrom_eq member bound)
  rw [List.map_map, List.map_map] at targets
  exact targets.trans (List.map_id _)

theorem Assembled.spawnsFrom_eq_nil {placed : Placement}
    (member : placed ∈ castPlacements config total items)
    (anywhere : placed.entry.isAnywhere = true) :
    last.outcome.world.spawnsFrom placed.id = [] := by
  have none := whole.map_link_spawnsFrom member
  rw [Placement.spawnLinks, anywhere, if_pos rfl] at none
  exact List.map_eq_nil_iff.1 none

/-- Each spawn edge of a node folds what its table says of the target. -/
theorem Assembled.foldsAt_of_mem_spawnsFrom {placed : Placement}
    (member : placed ∈ castPlacements config total items)
    (bound : placed.entry.isAnywhere = false) {edge : Edge}
    (inside : edge ∈ last.outcome.world.spawnsFrom placed.id) :
    ∃ probability overrides, edge.kind = .spawn probability overrides ∧
      last.outcome.world.FoldsAt config.graph placed.entry.spawnTable.entries edge.target
        probability overrides := by
  have linked := List.mem_map_of_mem (f := Edge.link) inside
  rw [whole.map_link_spawnsFrom_eq member bound] at linked
  obtain ⟨home, -, same⟩ := List.mem_map.1 linked
  obtain rfl : home = edge.target := congrArg Link.target same
  exact ⟨_, _, (congrArg Link.kind same).symm, whole.foldsAt ..⟩

/-- The spawn edges of a node fold the table of its entry. -/
theorem Assembled.foldsSpawns {placed : Placement}
    (member : placed ∈ castPlacements config total items) :
    last.outcome.world.FoldsSpawns config.graph placed.entry (placed.node config.graph) where
  made := makes_node_of_mem_cast member
  isGlobal := Placement.isGlobalEvent_node config.graph placed
  anywhere := by
    rw [Placement.isGlobalEvent_node]
    exact whole.spawnsFrom_eq_nil member
  targets := by
    rw [Placement.isGlobalEvent_node]
    intro bound home
    obtain ⟨table, keys, records⟩ := whole.exists_records_homes placed.entry.spawnTable.entries
    rw [← records.keys, keys, ← whole.map_target_spawnsFrom member bound, List.mem_map]
    rfl
  order := by
    rw [Placement.isGlobalEvent_node]
    intro bound
    obtain ⟨table, keys, records⟩ := whole.exists_records_homes placed.entry.spawnTable.entries
    have ascending := records.order
    rwa [keys, ← whole.map_target_spawnsFrom member bound] at ascending
  edges := by
    intro edge inside
    cases bound : placed.entry.isAnywhere with
    | false => exact whole.foldsAt_of_mem_spawnsFrom member bound inside
    | true =>
      have none : last.outcome.world.spawnsFrom (placed.node config.graph).id = [] :=
        whole.spawnsFrom_eq_nil member bound
      rw [none] at inside
      cases inside

/-- Whatever a draft has been assembled from, its outcome folds the spawn tables. -/
theorem Assembled.forall₂_foldsSpawns :
    List.Forall₂ (last.outcome.world.FoldsSpawns config.graph)
      ((items.map Prod.snd).filter fun entry => decide entry.IsCast)
      (last.outcome.world.nodes.filter fun node =>
        decide (node.type = .character ∨ node.type = .event)) := by
  rw [filter_cast_nodes whole.nodes, ← @map_entry_castPlacements config total items]
  exact forall₂_map_map fun placed => whole.foldsSpawns

end Whole

end Draft

/-! ## The main statement -/

/-- **Spawn tables are folded into spawn edges**, whatever entries are imported. The characters and
events of the world are made of their entries one by one, and the spawn edges of each of them fold
the spawn table of its entry. -/
theorem importEntries_foldsSpawns (config : Config) (entries : List Entry) :
    (∃ outcome, importEntries config entries = .ok outcome ∧
      List.Forall₂ (outcome.world.FoldsSpawns config.graph)
        (entries.filter fun entry => decide entry.IsCast)
        (outcome.world.nodes.filter fun node =>
          decide (node.type = .character ∨ node.type = .event)) ∧
      outcome.world.TellsRooms) ∨
      (importEntries config entries = .error (.refused (.idsExhausted .node)) ∧
        ElementId.maxOrdinal < (importDraft config entries).nodes.length) ∨
      (importEntries config entries = .error (.refused (.idsExhausted .edge)) ∧
        ElementId.maxOrdinal < (importDraft config entries).edges.length) := by
  have whole := assembled_importDraft config entries
  have folded := whole.forall₂_foldsSpawns
  rw [map_snd_zip_range] at folded
  exact (importEntries_cases config entries).imp_left fun imported =>
    ⟨_, imported, folded, whole.tellsRooms⟩

/-- Words of one place stand before and after those of its sublocations, in any letters. -/
example :
    (importEntries {}
      [({ Entry.blank .location "Forest" with keywords := ["forest", "wood"] }.withSublocation
          "Den").withSublocation "Pit",
        { Entry.blank .location "Lake" with keywords := ["lake"] }.withSublocation "Pier",
        ((((Entry.blank .character "Wolf").withSpawn "PIER" 0.5).withSpawn "wood" 1).withSpawn
          "den" 0.25).withSpawn "Forest" 0]).toOption.map
        (fun outcome => outcome.world.edges.map Edge.link) =
      some [
        ⟨⟨"char_6"⟩, ⟨"loc_4"⟩, .spawn 0.1 (.ofList [("Pier", 0.5)])⟩,
        ⟨⟨"char_6"⟩, ⟨"loc_1"⟩, .spawn 0 (.ofList [("Den", 0.25)])⟩] := by
  decide +kernel

end StoryWorld

import StoryWorld.Proofs.Lore.Copies

/-!
# Words of an unambiguous world lead back

In an import of the entries of an unambiguous world (`Snapshot.Reimport`) every word leads to the
copy of the one node that has it (`Reimport.locations_get?_iff`, `Reimport.characters_get?_iff`,
`Reimport.sublocations_get?_of_mem`). So it can be said what a spawn table leads to: the copies of
the targets of those spawn edges that say anything (`Reimport.mem_homes_iff`), each with the
probability that the table has under the keyword of the place (`Reimport.chanceAt_eq`), and with
those values as overrides that the table has under the names of its sublocations
(`Reimport.get?_overridesAt_iff`).
-/

set_option autoImplicit false

namespace StoryWorld

namespace Snapshot

/-- The last draft of an import of the entries of an unambiguous world. -/
structure Reimport (world : Snapshot) (config : Config) (last : Draft) : Prop where
  valid : world.Valid
  typed : world.Typed
  clear : world.Unambiguous
  whole : Draft.Assembled config world.entries.length world.items last []
  copied : world.Copied config world.importOrder last.nodes

theorem Unambiguous.reimport {world : Snapshot} (valid : world.Valid) (typed : world.Typed)
    (clear : world.Unambiguous) (config : Config) :
    world.Reimport config (importDraft config world.entries) where
  valid := valid
  typed := typed
  clear := clear
  whole := Draft.assembled config _ world.items []
  copied := clear.copied_importOrder valid typed config

namespace Reimport

variable {world : Snapshot} {config : Config} {last : Draft} (again : world.Reimport config last)

include again

theorem exists_copy {node : Node} (member : node ∈ world.nodes) :
    ∃ copy ∈ last.nodes, node.CarriedTo config.graph world.renamed copy :=
  exists_right_of_forall₂ again.copied (again.valid.mem_importOrder.2 member)

theorem exists_node {copy : Node} (member : copy ∈ last.nodes) :
    ∃ node ∈ world.nodes, node.CarriedTo config.graph world.renamed copy := by
  obtain ⟨node, inside, carried⟩ := exists_left_of_forall₂ again.copied member
  exact ⟨node, again.valid.mem_importOrder.1 inside, carried⟩

/-! ## Keywords and names -/

/-- A word leads to the copy of the one node of its kind that has it. -/
theorem declarer?_iff {kind : NodeType} {type : EdgeType} (bond : Mutual kind type) {word : String}
    {id : ElementId} :
    declarer? last.nodes kind word = some id ↔
      ∃ node ∈ world.nodesOf kind, word ∈ node.keywords.map Text.lowercase ∧
        id = world.renamed node.id := by
  have keyed : ∀ node : Node, node.type = kind → node.type ≠ .sublocation := by
    rintro node rfl same
    rw [same] at bond
    cases bond
  have found : ∀ id, declarer? last.nodes kind word = some id →
      ∃ node ∈ world.nodesOf kind, word ∈ node.keywords.map Text.lowercase ∧
        id = world.renamed node.id := by
    intro id declared
    obtain ⟨copy, isCopy, rfl, typed, known⟩ := declarer?_eq_some declared
    obtain ⟨node, member, carried⟩ := again.exists_node isCopy
    rw [carried.type_eq] at typed
    rw [carried.keywords_eq (keyed node typed)] at known
    exact ⟨node, mem_nodesOf.2 ⟨member, typed⟩, known, carried.id_eq⟩
  refine ⟨found id, ?_⟩
  rintro ⟨node, member, known, rfl⟩
  obtain ⟨inside, typed⟩ := mem_nodesOf.1 member
  obtain ⟨copy, isCopy, carried⟩ := again.exists_copy inside
  have declared : declarer? last.nodes kind word ≠ none := by
    rw [← carried.keywords_eq (keyed node typed)] at known
    rw [← typed, ← carried.type_eq]
    exact declarer?_ne_none isCopy known
  obtain ⟨other, here⟩ := Option.ne_none_iff_exists'.1 declared
  obtain ⟨same, sameMember, sameKnown, rfl⟩ := found other here
  rw [here, again.clear.eq_of_word bond sameMember member sameKnown known]

theorem locations_get?_iff {word : String} {id : ElementId} :
    last.locations.get? word = some id ↔
      ∃ node ∈ world.nodesOf .location, word ∈ node.keywords.map Text.lowercase ∧
        id = world.renamed node.id := by
  rw [again.whole.indexed.locations, again.declarer?_iff .adjacent]

theorem characters_get?_iff {word : String} {id : ElementId} :
    last.characters.get? word = some id ↔
      ∃ node ∈ world.nodesOf .character, word ∈ node.keywords.map Text.lowercase ∧
        id = world.renamed node.id := by
  rw [again.whole.indexed.characters, again.declarer?_iff .knows]

/-- The name of a sublocation leads to its copy. -/
theorem sublocations_get?_of_mem {room : Node} {parent : ElementId} (member : room ∈ world.nodes)
    (below : room.parent = some parent) :
    last.sublocations.get? (Text.lowercase room.name) =
      some ⟨world.renamed room.id, world.renamed parent, room.name⟩ := by
  have isRoom : room ∈ world.nodesOf .sublocation :=
    mem_nodesOf.2 ⟨member, Node.type_of_parent below⟩
  have notEvent : ∀ node ∈ world.nodesOf .sublocation, node.type ≠ .event := by
    intro node inside
    rw [(mem_nodesOf.1 inside).2]
    exact NodeType.noConfusion
  rw [again.whole.indexed.sublocations]
  cases found : sublocationNamed? last.nodes (Text.lowercase room.name) with
  | none =>
    obtain ⟨copy, isCopy, carried⟩ := again.exists_copy member
    have own : copy.ref? = some ⟨copy.id, world.renamed parent, copy.name⟩ := by
      rw [Node.ref?, carried.parent_eq, below]
      rfl
    have known := sublocationNamed?_ne_none isCopy own
    rw [carried.name_eq (notEvent room isRoom)] at known
    exact absurd found known
  | some ref =>
    obtain ⟨copy, isCopy, own, named⟩ := sublocationNamed?_eq_some found
    obtain ⟨placed, sameId, sameName⟩ := Node.ref?_eq_some own
    obtain ⟨node, inside, carried⟩ := again.exists_node isCopy
    rw [carried.parent_eq] at placed
    obtain ⟨above, belowAbove, moved⟩ := Option.map_eq_some_iff.1 placed
    have isNode : node ∈ world.nodesOf .sublocation :=
      mem_nodesOf.2 ⟨inside, Node.type_of_parent belowAbove⟩
    rw [carried.name_eq (notEvent node isNode)] at sameName
    rw [sameName] at named
    have same : node = room := again.clear.names node isNode room isRoom named
    subst same
    rw [below] at belowAbove
    obtain ⟨id, parent', name⟩ := ref
    simp only at sameId sameName moved
    rw [sameId, sameName, ← moved, carried.id_eq, Option.some.inj belowAbove]

/-! ## Keys of spawn tables -/

/-- The key of a location leads to its copy. -/
theorem namedLocation?_of_placeKey {place : Node} {key : String}
    (isKey : world.PlaceKey place key) :
    last.namedLocation? key = some (world.renamed place.id) :=
  again.locations_get?_iff.2
    ⟨place, isKey.member, Node.lowercase_mem_of_firstKeyword isKey.known, rfl⟩

theorem namedLocation?_of_roomKey {room : Node} {key : String} (isKey : world.RoomKey room key) :
    last.namedLocation? key = none := by
  refine Option.eq_none_iff_forall_ne_some.2 fun id found => ?_
  obtain ⟨place, isPlace, known, -⟩ := again.locations_get?_iff.1 found
  exact isKey.free place isPlace known

/-- The key of a sublocation leads to its copy. -/
theorem namedSublocation?_of_roomKey {room : Node} {key : String} {parent : ElementId}
    (isKey : world.RoomKey room key) (below : room.parent = some parent) :
    last.namedSublocation? key =
      some ⟨world.renamed room.id, world.renamed parent, room.name⟩ := by
  rw [Draft.namedSublocation?, again.namedLocation?_of_roomKey isKey, Option.isSome_none,
    if_neg Bool.false_ne_true, ← isKey.named]
  exact again.sublocations_get?_of_mem (mem_nodesOf.1 isKey.member).1 below

/-- Whatever a spawn edge says leads to the copy of its target. -/
theorem home?_of_said {edge : Edge} (member : edge ∈ world.edgesOf .spawn)
    {spawn : String × Float} (said : spawn ∈ world.edgeSpawns edge) :
    last.home? spawn.1 = some (world.renamed edge.target) := by
  obtain ⟨place, -, toThere, ⟨isKey, -⟩ | ⟨room, isKey, below, -⟩⟩ :=
    again.clear.spawn_cases again.valid again.typed member said
  · rw [Draft.home?, again.namedLocation?_of_placeKey isKey, Option.some_or, toThere]
  · rw [Draft.home?, again.namedLocation?_of_roomKey isKey,
      again.namedSublocation?_of_roomKey isKey below, Option.none_or, ← toThere]
    rfl

omit again in
/-- What stands in a spawn table is said by a spawn edge. -/
theorem said_of_mem_spawnTable {id : ElementId} {spawn : String × Float}
    (listed : spawn ∈ (world.spawnTable id).entries) :
    ∃ edge ∈ world.edgesOf .spawn, edge.source = id ∧ spawn ∈ world.edgeSpawns edge :=
  mem_spawns.1 (Table.mem_of_get?_ofList (Table.get?_eq_some_iff.2 listed))

/-- A spawn table leads to the copies of the targets of the edges that say anything. -/
theorem mem_homes_iff {id home : ElementId} :
    home ∈ last.homes (world.spawnTable id).entries ↔
      ∃ edge ∈ world.edgesOf .spawn, edge.source = id ∧ world.edgeSpawns edge ≠ [] ∧
        home = world.renamed edge.target := by
  rw [Draft.homes, mem_distinct, List.mem_filterMap]
  constructor
  · rintro ⟨spawn, listed, found⟩
    obtain ⟨edge, member, fromHere, said⟩ := said_of_mem_spawnTable listed
    rw [again.home?_of_said member said] at found
    exact ⟨edge, member, fromHere, List.ne_nil_of_mem said, (Option.some.inj found).symm⟩
  · rintro ⟨edge, member, fromHere, something, rfl⟩
    obtain ⟨spawn, said⟩ := List.exists_mem_of_ne_nil _ something
    have key : spawn.1 ∈ (world.spawnTable id).keys :=
      Table.mem_keys_ofList.2 (List.mem_map_of_mem (mem_spawns.2 ⟨edge, member, fromHere, said⟩))
    obtain ⟨listed, inside, same⟩ := List.mem_map.1 key
    refine ⟨listed, inside, ?_⟩
    rw [same, again.home?_of_said member said]

/-- Every key of a spawn table leads somewhere. -/
theorem home?_ne_none {id : ElementId} {spawn : String × Float}
    (listed : spawn ∈ (world.spawnTable id).entries) : last.home? spawn.1 ≠ none := by
  obtain ⟨edge, member, -, said⟩ := said_of_mem_spawnTable listed
  rw [again.home?_of_said member said]
  exact Option.some_ne_none _

/-- A key of a spawn table names the copy of a location just if it is the key of the location. -/
theorem namedLocation?_eq_iff {id : ElementId} {spawn : String × Float}
    (listed : spawn ∈ (world.spawnTable id).entries) {place : Node}
    (isPlace : place ∈ world.nodesOf .location) :
    last.namedLocation? spawn.1 = some (world.renamed place.id) ↔
      place.firstKeyword = some spawn.1 := by
  obtain ⟨edge, member, -, said⟩ := said_of_mem_spawnTable listed
  obtain ⟨other, -, -, ⟨isKey, -⟩ | ⟨room, isKey, -⟩⟩ :=
    again.clear.spawn_cases again.valid again.typed member said
  · rw [again.namedLocation?_of_placeKey isKey, Option.some.injEq]
    constructor
    · intro same
      rw [← again.valid.renamed_inj (mem_nodesOf.1 isKey.member).1 (mem_nodesOf.1 isPlace).1 same]
      exact isKey.known
    · intro known
      rw [again.clear.eq_of_placeKey isKey ⟨isPlace, known⟩]
  · rw [again.namedLocation?_of_roomKey isKey]
    constructor
    · intro found
      cases found
    · intro known
      exact absurd isKey (PlaceKey.not_roomKey ⟨isPlace, known⟩)

/-- The probability of a place is the one that the table has under its keyword. -/
theorem chanceAt_eq (id : ElementId) {place : Node} (isPlace : place ∈ world.nodesOf .location) :
    Draft.chanceAt config.graph last (world.spawnTable id).entries (world.renamed place.id) =
      (place.firstKeyword.bind (world.spawnTable id).get?).getD
        config.graph.defaultSpawnProbability := by
  have chosen : ((world.spawnTable id).entries.filter fun spawn =>
      decide (last.namedLocation? spawn.1 = some (world.renamed place.id))) =
        (world.spawnTable id).entries.filter fun spawn =>
          decide (place.firstKeyword = some spawn.1) := by
    refine List.filter_congr fun spawn listed => ?_
    exact decide_eq_decide.2 (again.namedLocation?_eq_iff listed isPlace)
  rw [Draft.chanceAt, chosen]
  cases known : place.firstKeyword with
  | none => simp
  | some key =>
    have found := Table.get?_ofList (world.spawnTable id).entries key
    rw [Table.ofList_entries] at found
    rw [Option.bind_some, found, List.getLast?_filter]
    simp only [Option.some.injEq, eq_comm]

/-- The overrides of a place are what the table has under the names of its sublocations. -/
theorem mem_overridesAt_iff {id : ElementId} {place : Node}
    (isPlace : place ∈ world.nodesOf .location) {spawn : String × Float} :
    spawn ∈ last.overridesAt (world.spawnTable id).entries (world.renamed place.id) ↔
      spawn ∈ (world.spawnTable id).entries ∧
        ∃ room, world.RoomKey room spawn.1 ∧ room.parent = some place.id := by
  rw [Draft.overridesAt, List.mem_filterMap]
  constructor
  · rintro ⟨other, listed, found⟩
    obtain ⟨ref, chosen, rfl⟩ := Option.map_eq_some_iff.1 found
    obtain ⟨named, above⟩ := Option.filter_eq_some_iff.1 chosen
    obtain ⟨edge, member, -, said⟩ := said_of_mem_spawnTable listed
    obtain ⟨home, isHome, -, ⟨isKey, -⟩ | ⟨room, isKey, below, -⟩⟩ :=
      again.clear.spawn_cases again.valid again.typed member said
    · rw [Draft.namedSublocation?, again.namedLocation?_of_placeKey isKey] at named
      cases named
    · rw [again.namedSublocation?_of_roomKey isKey below] at named
      cases named
      have same : home = place := again.valid.renamed_inj (mem_nodesOf.1 isHome).1
        (mem_nodesOf.1 isPlace).1 (of_decide_eq_true above)
      subst same
      simp only
      rw [isKey.named]
      exact ⟨listed, room, isKey, below⟩
  · rintro ⟨listed, room, isKey, below⟩
    refine ⟨spawn, listed, ?_⟩
    rw [again.namedSublocation?_of_roomKey isKey below]
    simp [Option.filter, isKey.named]

theorem get?_overridesAt_iff {id : ElementId} {place : Node}
    (isPlace : place ∈ world.nodesOf .location) {name : String} {value : Float} :
    (Table.ofList (last.overridesAt (world.spawnTable id).entries
        (world.renamed place.id))).get? name = some value ↔
      (world.spawnTable id).get? name = some value ∧
        ∃ room, world.RoomKey room name ∧ room.parent = some place.id := by
  rw [Table.get?_ofList_iff, again.mem_overridesAt_iff isPlace, Table.get?_eq_some_iff]
  intro key first second firstListed secondListed
  have firstFound := Table.get?_eq_some_iff.2 ((again.mem_overridesAt_iff isPlace).1 firstListed).1
  have secondFound :=
    Table.get?_eq_some_iff.2 ((again.mem_overridesAt_iff isPlace).1 secondListed).1
  exact Option.some.inj (firstFound.symm.trans secondFound)

end Reimport

end Snapshot

end StoryWorld

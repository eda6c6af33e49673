import StoryWorld.Proofs.Lore.ImportedEdges
import StoryWorld.Proofs.Lore.ImportedWords
import StoryWorld.Proofs.Lore.References

/-!
# Spawn tables that come back

An import follows the keys of a spawn table to places, whatever their letters and whichever keyword
they are, and an export writes the places down again: a location by its first keyword, together with
the names of its sublocations. So a table comes back as it was just if each of its keys names its
place in this way already (`Snapshot.NamesPlainly`).

This holds for all entries whose words do not collide (`Assembled.same_spawnTable_iff`). It takes
two descriptions of the table that comes back: what the spawn edges of the node say
(`Assembled.mem_spawns_iff`), and which places plain keys lead to.
-/

set_option autoImplicit false

namespace StoryWorld

namespace Snapshot

/-- A key of a spawn table names its place as an export does. It is the first keyword of a location;
or it is the name of a sublocation and no keyword of a location, and the table has the first keyword
of the location above, if there is one. -/
def NamesPlainly (world : Snapshot) (table : Table String Float) (key : String) : Prop :=
  (∃ place, world.PlaceKey place key) ∨
    ∃ place ∈ world.nodesOf .location, ∃ room, world.RoomKey room key ∧
      room.parent = some place.id ∧
      ∀ keyword, place.firstKeyword = some keyword → keyword ∈ table.keys

end Snapshot

namespace Draft

section Whole

variable {config : Config} {total : Nat} {items : List (Nat × Entry)} {last : Draft}
  (whole : Assembled config total items last [])

include whole

/-! ## What the edges of a node say -/

/-- The spawn edges of a node are those of its own table. -/
theorem Assembled.link_mem_spawnLinks {placed : Placement}
    (member : placed ∈ castPlacements config total items) {edge : Edge}
    (isEdge : edge ∈ last.outcome.world.edgesOf .spawn) (fromHere : edge.source = placed.id) :
    edge.link ∈ placed.spawnLinks config.graph last := by
  obtain ⟨inside, typed⟩ := Snapshot.mem_edgesOf.1 isEdge
  obtain ⟨other, isPlaced, linked⟩ := whole.exists_placed_of_spawnEdge inside typed
  have source : edge.link.source = other.id := source_of_mem_spawnLinks linked
  have same : other = placed :=
    List.inj_on_of_nodup_map whole.nodup_cast isPlaced member (source.symm.trans fromHere)
  exact same ▸ linked

/-- The spawn edges of a node say of each place that its table leads to which chance it has, and
which those of its sublocations have that are greater than zero. -/
theorem Assembled.mem_spawns_iff {placed : Placement}
    (member : placed ∈ castPlacements config total items)
    (bound : placed.entry.isAnywhere = false) {said : String × Float} :
    said ∈ last.outcome.world.spawns placed.id ↔
      ∃ home ∈ last.homes placed.entry.spawnTable.entries,
        (last.outcome.world.keyword? home = some said.1 ∧
            chanceAt config.graph last placed.entry.spawnTable.entries home = said.2) ∨
          (Table.ofList (last.overridesAt placed.entry.spawnTable.entries home)).get? said.1 =
              some said.2 ∧ 0 < said.2 := by
  rw [Snapshot.mem_spawns]
  constructor
  · rintro ⟨edge, isEdge, fromHere, told⟩
    have linked := whole.link_mem_spawnLinks member isEdge fromHere
    rw [Placement.spawnLinks, bound, if_neg Bool.false_ne_true, entries_spawnTargets,
      List.map_map] at linked
    obtain ⟨home, isHome, same⟩ := List.mem_map.1 linked
    have toThere : edge.target = home := (congrArg Link.target same).symm
    have kind : edge.kind = .spawn _ _ := (congrArg Link.kind same).symm
    refine ⟨home, isHome, ?_⟩
    rcases Snapshot.mem_edgeSpawns.1 told with ⟨overrides, own, known⟩ | ⟨listed, positive⟩
    · rw [kind] at own
      exact Or.inl ⟨toThere ▸ known, (EdgeKind.spawn.inj own).1⟩
    · rw [kind] at listed
      exact Or.inr ⟨Table.get?_eq_some_iff.2 listed, positive⟩
  · rintro ⟨home, isHome, told⟩
    obtain ⟨spawn, listed, found⟩ := List.mem_filterMap.1 (mem_distinct.1 isHome)
    obtain ⟨edge, isEdge, fromHere, toThere, kind⟩ :=
      whole.exists_spawnEdge member bound listed found
    refine ⟨edge, isEdge, fromHere, Snapshot.mem_edgeSpawns.2 ?_⟩
    rcases told with ⟨known, chance⟩ | ⟨override, positive⟩
    · exact Or.inl ⟨_, chance ▸ kind, toThere ▸ known⟩
    · rw [kind]
      exact Or.inr ⟨Table.get?_eq_some_iff.1 override, positive⟩

/-! ## Where plain keys lead -/

/-- The keyword of a place that a key names is a keyword of a location. -/
theorem Assembled.placeKey_of_keyword? {key word : String} {home : ElementId}
    (found : last.home? key = some home)
    (known : last.outcome.world.keyword? home = some word) :
    ∃ place, last.outcome.world.PlaceKey place word ∧ place.id = home := by
  have isPlace : ∃ place ∈ last.nodes, place.id = home ∧ place.type = .location := by
    rcases Option.or_eq_some_iff.1 found with direct | ⟨-, through⟩
    · obtain ⟨place, inside, own, typed, -⟩ :=
        declarer?_eq_some ((whole.indexed.locations _).symm.trans direct)
      exact ⟨place, inside, own, typed⟩
    · obtain ⟨ref, named, rfl⟩ := Option.map_eq_some_iff.1 through
      obtain ⟨room, inside, own, -⟩ :=
        sublocationNamed?_eq_some (whole.indexed.of_namedSublocation? named).2
      exact whole.indexed.parents room inside _ (Node.ref?_eq_some own).1
  obtain ⟨place, inside, own, typed⟩ := isPlace
  have valid : last.outcome.world.Valid := whole.valid_snapshot
  have member : place ∈ last.outcome.world.nodes := inside
  refine ⟨place, ⟨Snapshot.mem_nodesOf.2 ⟨member, typed⟩, ?_⟩, own⟩
  rw [← valid.keyword?_eq member, own, known]

theorem Assembled.namedLocation?_of_roomKey {room : Node} {key : String}
    (isKey : last.outcome.world.RoomKey room key) : last.namedLocation? key = none := by
  refine Option.eq_none_iff_forall_ne_some.2 fun id found => ?_
  rw [namedLocation?, whole.indexed.locations] at found
  obtain ⟨place, inside, -, typed, known⟩ := declarer?_eq_some found
  exact isKey.free place (Snapshot.mem_nodesOf.2 ⟨inside, typed⟩) known

section Free

variable (free : last.outcome.report.collisions = [])

include free

/-- The first keyword of a location leads to it. -/
theorem Assembled.namedLocation?_of_placeKey {place : Node} {key : String}
    (isKey : last.outcome.world.PlaceKey place key) :
    last.namedLocation? key = some place.id := by
  rw [namedLocation?, whole.indexed.locations]
  exact whole.declarer?_of_mem free .adjacent isKey.member
    (Node.lowercase_mem_of_firstKeyword isKey.known)

/-- The name of a sublocation leads to it, unless a location has it as a keyword. -/
theorem Assembled.namedSublocation?_of_roomKey {room : Node} {key : String}
    (isKey : last.outcome.world.RoomKey room key) {parent : ElementId}
    (below : room.parent = some parent) :
    last.namedSublocation? key = some ⟨room.id, parent, key⟩ := by
  obtain ⟨ref, found, same⟩ := whole.sublocationNamed?_of_mem free isKey.member
  obtain ⟨other, inside, own, -⟩ := sublocationNamed?_eq_some found
  obtain ⟨-, id, -⟩ := Node.ref?_eq_some own
  have equal : other = room := eq_of_id_eq whole.indexed.nodup inside
    (Snapshot.mem_nodesOf.1 isKey.member).1 (id.symm.trans same)
  rw [namedSublocation?, whole.namedLocation?_of_roomKey isKey, Option.isSome_none,
    if_neg Bool.false_ne_true, whole.indexed.sublocations, ← isKey.named, found, ← own, equal,
    Node.ref?, below]
  rfl

/-! ## Tables of plain keys -/

section Plain

variable {table : Table String Float}
  (plain : ∀ key ∈ table.keys, last.outcome.world.NamesPlainly table key)

include plain

/-- A plain key that names a location is its first keyword. -/
theorem Assembled.eq_of_namedLocation? {key word : String} (listed : key ∈ table.keys)
    {place : Node} (isKey : last.outcome.world.PlaceKey place word)
    (named : last.namedLocation? key = some place.id) : key = word := by
  rcases plain key listed with ⟨other, own⟩ | ⟨-, -, room, own, -⟩
  · rw [whole.namedLocation?_of_placeKey free own] at named
    have same : other = place := eq_of_id_eq whole.indexed.nodup
      (Snapshot.mem_nodesOf.1 own.member).1 (Snapshot.mem_nodesOf.1 isKey.member).1
      (Option.some.inj named)
    subst same
    exact Option.some.inj (own.known.symm.trans isKey.known)
  · rw [whole.namedLocation?_of_roomKey own] at named
    cases named

/-- The chance of a location is the one under its first keyword. -/
theorem Assembled.chanceAt_of_plain (settings : GraphSettings) {place : Node} {word : String}
    (isKey : last.outcome.world.PlaceKey place word) {chance : Float}
    (listed : (word, chance) ∈ table.entries) :
    chanceAt settings last table.entries place.id = chance := by
  have chosen : (table.entries.filter fun spawn =>
      decide (last.namedLocation? spawn.1 = some place.id)) =
        table.entries.filter fun spawn => decide (spawn.1 = word) := by
    refine List.filter_congr fun spawn inside => decide_eq_decide.2 ⟨fun named => ?_, ?_⟩
    · exact whole.eq_of_namedLocation? free plain (List.mem_map_of_mem inside) isKey named
    · rintro rfl
      exact whole.namedLocation?_of_placeKey free isKey
  have found := Table.get?_ofList table.entries word
  rw [Table.ofList_entries, Table.get?_eq_some_iff.2 listed, ← List.getLast?_filter] at found
  rw [chanceAt, chosen, ← found, Option.getD_some]

/-- What the sublocations of a location get is what stands in the table. -/
theorem Assembled.mem_of_mem_overridesAt {home : ElementId} {override : String × Float}
    (told : override ∈ last.overridesAt table.entries home) : override ∈ table.entries := by
  obtain ⟨spawn, listed, found⟩ := List.mem_filterMap.1 told
  obtain ⟨ref, chosen, rfl⟩ := Option.map_eq_some_iff.1 found
  obtain ⟨named, -⟩ := Option.filter_eq_some_iff.1 chosen
  have isKey := plain spawn.1 (List.mem_map_of_mem listed)
  rcases isKey with ⟨place, own⟩ | ⟨place, -, room, own, below, -⟩
  · rw [namedSublocation?, whole.namedLocation?_of_placeKey free own, Option.isSome_some,
      if_pos rfl] at named
    cases named
  · rw [whole.namedSublocation?_of_roomKey free own below] at named
    rw [← Option.some.inj named]
    exact listed

/-- The overrides of a location are found as they are listed. -/
theorem Assembled.get?_overridesAt_iff {home : ElementId} {name : String} {value : Float} :
    (Table.ofList (last.overridesAt table.entries home)).get? name = some value ↔
      (name, value) ∈ last.overridesAt table.entries home := by
  refine Table.get?_ofList_iff fun key first second isFirst isSecond => ?_
  have firstFound := Table.get?_eq_some_iff.2 (whole.mem_of_mem_overridesAt free plain isFirst)
  have secondFound := Table.get?_eq_some_iff.2 (whole.mem_of_mem_overridesAt free plain isSecond)
  exact Option.some.inj (firstFound.symm.trans secondFound)

/-- The table has the first keyword of every location that it leads to. -/
theorem Assembled.keyword_mem_keys {home : ElementId} (isHome : home ∈ last.homes table.entries)
    {word : String} (known : last.outcome.world.keyword? home = some word) :
    word ∈ table.keys := by
  obtain ⟨spawn, listed, found⟩ := List.mem_filterMap.1 (mem_distinct.1 isHome)
  have inside : spawn.1 ∈ table.keys := List.mem_map_of_mem listed
  obtain ⟨place, isKey, rfl⟩ := whole.placeKey_of_keyword? found known
  rcases Option.or_eq_some_iff.1 found with direct | ⟨unnamed, through⟩
  · exact whole.eq_of_namedLocation? free plain inside isKey direct ▸ inside
  · rcases plain spawn.1 inside with ⟨other, own⟩ | ⟨other, isOther, room, own, below, above⟩
    · rw [whole.namedLocation?_of_placeKey free own] at unnamed
      cases unnamed
    · rw [whole.namedSublocation?_of_roomKey free own below, Option.map_some] at through
      have same : other = place := eq_of_id_eq whole.indexed.nodup
        (Snapshot.mem_nodesOf.1 isOther).1 (Snapshot.mem_nodesOf.1 isKey.member).1
        (Option.some.inj through)
      exact above word (same ▸ isKey.known)

end Plain

section Kept

variable {placed : Placement} (member : placed ∈ castPlacements config total items)
  (bound : placed.entry.isAnywhere = false)

include member bound

/-- A table of plain keys is what the spawn edges of the node say. -/
theorem Assembled.mem_spawns_of_plain_iff
    (plain : ∀ key ∈ placed.entry.spawnTable.keys,
      last.outcome.world.NamesPlainly placed.entry.spawnTable key)
    (positive : ∀ spawn ∈ placed.entry.spawnTable.entries,
      last.namedLocation? spawn.1 = none → 0 < spawn.2) {said : String × Float} :
    said ∈ last.outcome.world.spawns placed.id ↔ said ∈ placed.entry.spawnTable.entries := by
  rw [whole.mem_spawns_iff member bound]
  obtain ⟨key, chance⟩ := said
  constructor
  · rintro ⟨home, isHome, ⟨known, rfl⟩ | ⟨override, -⟩⟩
    · obtain ⟨value, found⟩ :=
        Table.mem_keys_iff.1 (whole.keyword_mem_keys free plain isHome known)
      have entry := Table.get?_eq_some_iff.1 found
      obtain ⟨spawn, -, led⟩ := List.mem_filterMap.1 (mem_distinct.1 isHome)
      obtain ⟨place, isKey, rfl⟩ := whole.placeKey_of_keyword? led known
      rw [whole.chanceAt_of_plain free plain config.graph isKey entry]
      exact entry
    · exact whole.mem_of_mem_overridesAt free plain
        ((whole.get?_overridesAt_iff free plain).1 override)
  · intro listed
    rcases plain key (List.mem_map_of_mem (f := Prod.fst) listed) with
      ⟨place, isKey⟩ | ⟨place, -, room, isKey, below, -⟩
    · have valid : last.outcome.world.Valid := whole.valid_snapshot
      have direct := whole.namedLocation?_of_placeKey free isKey
      have isHome : place.id ∈ last.homes placed.entry.spawnTable.entries :=
        mem_distinct.2 (List.mem_filterMap.2 ⟨_, listed, by rw [home?, direct, Option.some_or]⟩)
      refine ⟨place.id, isHome, Or.inl ⟨?_, ?_⟩⟩
      · rw [valid.keyword?_eq (Snapshot.mem_nodesOf.1 isKey.member).1, isKey.known]
      · exact whole.chanceAt_of_plain free plain config.graph isKey listed
    · have direct := whole.namedLocation?_of_roomKey isKey
      have named := whole.namedSublocation?_of_roomKey free isKey below
      have isHome : place.id ∈ last.homes placed.entry.spawnTable.entries := by
        refine mem_distinct.2 (List.mem_filterMap.2 ⟨_, listed, ?_⟩)
        rw [home?, direct, named]
        rfl
      refine ⟨place.id, isHome, Or.inr ⟨(whole.get?_overridesAt_iff free plain).2 ?_,
        positive _ listed direct⟩⟩
      exact List.mem_filterMap.2 ⟨_, listed, by simp [named, Option.filter]⟩

omit free in
/-- A table that comes back as it was has plain keys only. -/
theorem Assembled.namesPlainly_of_same
    (same : placed.entry.spawnTable.Same (last.outcome.world.spawnTable placed.id)) {key : String}
    (listed : key ∈ placed.entry.spawnTable.keys) :
    last.outcome.world.NamesPlainly placed.entry.spawnTable key := by
  obtain ⟨value, found⟩ := Table.mem_keys_iff.1 listed
  rw [same key] at found
  have said := Table.mem_of_get?_ofList found
  obtain ⟨home, isHome, ⟨known, -⟩ | ⟨override, -⟩⟩ := (whole.mem_spawns_iff member bound).1 said
  · obtain ⟨spawn, -, found⟩ := List.mem_filterMap.1 (mem_distinct.1 isHome)
    obtain ⟨place, isKey, -⟩ := whole.placeKey_of_keyword? found known
    exact Or.inl ⟨place, isKey⟩
  · obtain ⟨spawn, -, told⟩ := List.mem_filterMap.1 (Table.mem_of_get?_ofList override)
    obtain ⟨ref, chosen, pair⟩ := Option.map_eq_some_iff.1 told
    obtain ⟨named, above⟩ := Option.filter_eq_some_iff.1 chosen
    obtain ⟨room, isKey, below⟩ := whole.roomKey_of_namedSublocation? named
    cases pair
    have valid : last.outcome.world.Valid := whole.valid_snapshot
    obtain ⟨place, inside, own, typed⟩ :=
      valid.parents room (Snapshot.mem_nodesOf.1 isKey.member).1 _ below
    refine Or.inr ⟨place, Snapshot.mem_nodesOf.2 ⟨inside, typed⟩, room, isKey, own ▸ below, ?_⟩
    intro keyword known
    have here : place.id = home := own.trans (of_decide_eq_true above)
    rw [← valid.keyword?_eq inside, here] at known
    have written : (keyword, chanceAt config.graph last placed.entry.spawnTable.entries home) ∈
        last.outcome.world.spawns placed.id :=
      (whole.mem_spawns_iff member bound).2 ⟨home, isHome, Or.inl ⟨known, rfl⟩⟩
    exact same.mem_keys_iff.2 (Table.mem_keys_ofList.2 (List.mem_map_of_mem written))

/-- **Which tables come back.** Where words do not collide, the spawn table of an entry comes back
as it was just if each of its keys names its place as an export does. -/
theorem Assembled.same_spawnTable_iff
    (positive : ∀ spawn ∈ placed.entry.spawnTable.entries,
      last.namedLocation? spawn.1 = none → 0 < spawn.2) :
    placed.entry.spawnTable.Same (last.outcome.world.spawnTable placed.id) ↔
      ∀ key ∈ placed.entry.spawnTable.keys,
        last.outcome.world.NamesPlainly placed.entry.spawnTable key := by
  refine ⟨fun same key => whole.namesPlainly_of_same member bound same, fun plain => ?_⟩
  have told {said : String × Float} :
      said ∈ last.outcome.world.spawns placed.id ↔ said ∈ placed.entry.spawnTable.entries :=
    whole.mem_spawns_of_plain_iff free member bound plain positive
  refine Table.same_of_get?_iff fun key value => ?_
  rw [Snapshot.spawnTable, Table.get?_ofList_iff, told, Table.get?_eq_some_iff]
  intro key first second isFirst isSecond
  rw [told, ← Table.get?_eq_some_iff] at isFirst isSecond
  exact Option.some.inj (isFirst.symm.trans isSecond)

end Kept

end Free

end Whole

end Draft

end StoryWorld

import StoryWorld.Proofs.Lore.Findings
import StoryWorld.Proofs.Lore.ImportedNodes
import StoryWorld.Proofs.Lore.Unambiguous
import StoryWorld.Proofs.Lore.WellFormedImport

/-!
# Words of an imported world

An import tells of every word that two nodes have. Where it tells of none, each word leads to the
one node that has it (`Assembled.declarer?_of_mem`, `Assembled.sublocationNamed?_of_mem`).

Its spawn edges are made of keys that have been followed already. So an override is named like a
sublocation of the target, in the letters of the sublocation and not in those of the key, and no
location has the name as a keyword, since the key would have led there
(`Assembled.override_cases`). This holds whatever the entries are.

If no word for everywhere is among the names of places either, the words of the imported world are
unambiguous (`Assembled.unambiguous`).
-/

set_option autoImplicit false

namespace StoryWorld

namespace Draft

/-- Keywords that do not collide lead nowhere else. -/
theorem eq_of_keywordCollisions_eq_nil {scope : NodeType} {names : Table String ElementId}
    {id : ElementId} {keywords : List String}
    (free : keywordCollisions scope names id keywords = []) {word : String}
    (listed : word ∈ keywords.map Text.lowercase) {kept : ElementId}
    (found : names.get? word = some kept) : kept = id := by
  obtain ⟨keyword, member, rfl⟩ := List.mem_map.1 listed
  by_contra differ
  have told := List.filterMap_eq_nil_iff.1 free keyword member
  simp [found, differ] at told

/-- An override of a spawn table has the name of a sublocation of its target that some key names. -/
theorem exists_ref_of_override {settings : GraphSettings} {last : Draft} {placed : Placement}
    {link : Link} (member : link ∈ placed.spawnLinks settings last) {override : String × Float}
    (listed : override ∈ link.kind.overrides.entries) :
    ∃ key ref, last.namedSublocation? key = some ref ∧ ref.parent = link.target ∧
      ref.name = override.1 := by
  unfold Placement.spawnLinks at member
  split at member
  · cases member
  · rw [entries_spawnTargets, List.map_map] at member
    obtain ⟨home, -, rfl⟩ := List.mem_map.1 member
    have pair := Table.mem_of_get?_ofList (Table.get?_eq_some_iff.2 listed)
    obtain ⟨spawn, -, found⟩ := List.mem_filterMap.1 pair
    obtain ⟨ref, chosen, same⟩ := Option.map_eq_some_iff.1 found
    obtain ⟨named, above⟩ := Option.filter_eq_some_iff.1 chosen
    exact ⟨spawn.1, ref, named, of_decide_eq_true above, congrArg Prod.fst same⟩

section Whole

variable {config : Config} {total : Nat} {items : List (Nat × Entry)} {last : Draft}
  (whole : Assembled config total items last [])

include whole

/-! ## Overrides -/

/-- Only the spawn tables make spawn edges. -/
theorem Assembled.exists_placed_of_spawnEdge {edge : Edge} (member : edge ∈ last.edges)
    (spawns : edge.type = .spawn) :
    ∃ placed ∈ castPlacements config total items,
      edge.link ∈ Placement.spawnLinks config.graph last placed := by
  have typed : edge.link.kind.type = .spawn := spawns
  rcases List.mem_append.1 (whole.link_mem member) with inside | knows
  · rcases List.mem_append.1 inside with tables | borders
    · exact List.mem_flatMap.1 tables
    · have mentioned := mem_linked.1 ((linksOnce_sublist _ _).subset borders)
      rw [type_of_mem_adjacencyReferences mentioned] at typed
      cases typed
  · have mentioned := mem_linked.1 ((linksOnce_sublist _ _).subset knows)
    rw [type_of_mem_acquaintanceReferences mentioned] at typed
    cases typed

/-- Only the spawn tables make overrides. -/
theorem Assembled.exists_placed_of_override {edge : Edge} (member : edge ∈ last.edges)
    {override : String × Float} (listed : override ∈ edge.kind.overrides.entries) :
    ∃ placed, edge.link ∈ Placement.spawnLinks config.graph last placed := by
  have spawns : edge.type = .spawn := by
    by_contra other
    have none : edge.kind.overrides = .empty := EdgeKind.overrides_of_type_ne other
    rw [none] at listed
    cases listed
  obtain ⟨placed, -, linked⟩ := whole.exists_placed_of_spawnEdge member spawns
  exact ⟨placed, linked⟩

/-- The name of a sublocation that some key leads to is no keyword of a location. -/
theorem Assembled.roomKey_of_namedSublocation? {key : String} {ref : SublocationRef}
    (named : last.namedSublocation? key = some ref) :
    ∃ room, last.outcome.world.RoomKey room ref.name ∧ room.parent = some ref.parent := by
  obtain ⟨free, first⟩ := whole.indexed.of_namedSublocation? named
  obtain ⟨room, isRoom, own, same⟩ := sublocationNamed?_eq_some first
  obtain ⟨below, -, called⟩ := Node.ref?_eq_some own
  refine ⟨room, ⟨Snapshot.mem_nodesOf.2 ⟨isRoom, Node.type_of_parent below⟩, called.symm, ?_⟩,
    below⟩
  intro place isPlace shared
  obtain ⟨inside, typed⟩ := Snapshot.mem_nodesOf.1 isPlace
  rw [same] at shared
  exact declarer?_ne_none inside shared (typed ▸ free)

/-- **Overrides are named in their own letters.** An override has the name of a sublocation of the
target, and no location has it as a keyword. -/
theorem Assembled.override_cases {edge : Edge} (member : edge ∈ last.edges)
    {override : String × Float} (listed : override ∈ edge.kind.overrides.entries) :
    (∃ room ∈ last.outcome.world.sublocationsOf edge.target, room.name = override.1) ∧
      ∀ place ∈ last.outcome.world.nodesOf .location,
        Text.lowercase override.1 ∉ place.keywords.map Text.lowercase := by
  obtain ⟨placed, isLink⟩ := whole.exists_placed_of_override member listed
  obtain ⟨key, ref, named, above, name⟩ := exists_ref_of_override isLink listed
  obtain ⟨room, isKey, below⟩ := whole.roomKey_of_namedSublocation? named
  rw [name] at isKey
  rw [above] at below
  exact ⟨⟨room, Snapshot.mem_sublocationsOf.2 ⟨(Snapshot.mem_nodesOf.1 isKey.member).1, below⟩,
    isKey.named⟩, isKey.free⟩

/-! ## Words without collisions -/

section Free

variable (free : last.outcome.report.collisions = [])

include free

theorem Assembled.collisionsOf_eq_nil {node : Node} (member : node ∈ last.nodes) :
    last.collisionsOf node = [] := by
  rw [whole.collisions_outcome] at free
  exact List.flatMap_eq_nil_iff.1 free node member

/-- A word leads to each location or character that has it. -/
theorem Assembled.declarer?_of_mem {kind : NodeType} {type : EdgeType} (bond : Mutual kind type)
    {node : Node} (member : node ∈ last.outcome.world.nodesOf kind) {word : String}
    (listed : word ∈ node.keywords.map Text.lowercase) :
    declarer? last.nodes kind word = some node.id := by
  obtain ⟨isNode, rfl⟩ := Snapshot.mem_nodesOf.1 member
  have inside : node ∈ last.nodes := isNode
  have none := whole.collisionsOf_eq_nil free inside
  obtain ⟨kept, found⟩ := Option.ne_none_iff_exists'.1 (declarer?_ne_none inside listed)
  suffices same : kept = node.id by rw [found, same]
  generalize typed : node.type = kind at bond found
  cases bond with
  | adjacent =>
    rw [collisionsOf, Node.kind_of_location typed] at none
    exact eq_of_keywordCollisions_eq_nil none listed ((whole.indexed.locations word).trans found)
  | knows =>
    obtain ⟨disabledFor, isCharacter⟩ := Node.kind_of_character typed
    rw [collisionsOf, isCharacter] at none
    exact eq_of_keywordCollisions_eq_nil none listed ((whole.indexed.characters word).trans found)

/-- The name of a sublocation leads to it. -/
theorem Assembled.sublocationNamed?_of_mem {room : Node}
    (member : room ∈ last.outcome.world.nodesOf .sublocation) :
    ∃ ref, sublocationNamed? last.nodes (Text.lowercase room.name) = some ref ∧
      ref.id = room.id := by
  obtain ⟨isNode, typed⟩ := Snapshot.mem_nodesOf.1 member
  have inside : room ∈ last.nodes := isNode
  obtain ⟨parent, below⟩ := Node.parent_of_type typed
  have own : room.ref? = some ⟨room.id, parent, room.name⟩ := by
    rw [Node.ref?, below, Option.map_some]
  obtain ⟨kept, found⟩ := Option.ne_none_iff_exists'.1 (sublocationNamed?_ne_none inside own)
  refine ⟨kept, found, ?_⟩
  have none := whole.collisionsOf_eq_nil free inside
  rw [← whole.indexed.sublocations] at found
  rw [collisionsOf, Node.kind_of_parent below] at none
  simp only [found] at none
  by_contra differ
  rw [if_neg differ] at none
  cases none

/-- **Where nothing collides, words are unambiguous**, unless a place goes by the word for
everywhere. -/
theorem Assembled.unambiguous
    (nowhere : ∀ entry ∈ items.map Prod.snd, entry.IsLocation →
      entry.firstKeyword ≠ some anyLocation ∧ anyLocation ∉ entry.sublocationNames) :
    last.outcome.world.Unambiguous where
  keywords := by
    intro kind named first isFirst second isSecond word inFirst inSecond
    have bond : ∃ type, Mutual kind type := by
      rcases List.mem_pair.1 named with rfl | rfl
      · exact ⟨_, .adjacent⟩
      · exact ⟨_, .knows⟩
    obtain ⟨type, bond⟩ := bond
    have here := whole.declarer?_of_mem free bond isFirst inFirst
    rw [whole.declarer?_of_mem free bond isSecond inSecond] at here
    exact eq_of_id_eq whole.indexed.nodup (Snapshot.mem_nodesOf.1 isFirst).1
      (Snapshot.mem_nodesOf.1 isSecond).1 (Option.some.inj here).symm
  names := by
    intro first isFirst second isSecond same
    obtain ⟨one, here, own⟩ := whole.sublocationNamed?_of_mem free isFirst
    obtain ⟨other, there, alsoOwn⟩ := whole.sublocationNamed?_of_mem free isSecond
    rw [same, there] at here
    refine eq_of_id_eq whole.indexed.nodup (Snapshot.mem_nodesOf.1 isFirst).1
      (Snapshot.mem_nodesOf.1 isSecond).1 ?_
    rw [← own, ← alsoOwn, Option.some.inj here]
  overrides := fun edge member override listed _ => whole.override_cases member listed
  places := by
    intro place isPlace
    rw [nodesOf_location whole.nodes] at isPlace
    obtain ⟨placed, member, rfl⟩ := List.mem_map.1 isPlace
    exact (nowhere placed.entry (entry_mem_of_mem_locations member) (isLocation_of_mem member)).1
  rooms := by
    intro room isRoom
    obtain ⟨inside, typed⟩ := Snapshot.mem_nodesOf.1 isRoom
    obtain ⟨placed, member, below⟩ := exists_placed_of_room whole.nodes inside typed
    have isLocation := isLocation_of_mem member
    have names := (nowhere placed.entry (entry_mem_of_mem_locations member) isLocation).2
    rw [← Placement.map_name_sublocations config.graph isLocation] at names
    exact fun same => names (same ▸ List.mem_map_of_mem below)

end Free

end Whole

end Draft

end StoryWorld

import StoryWorld.Proofs.Lore.KeptTables
import StoryWorld.Proofs.Lore.Mentioners

/-!
# What comes back where no words collide

The entries of a world are imported and no words collide on the way (`Snapshot.ClearImport`). Then
every keyword leads to the one node that has it, and a node and the node made of its entry say much
the same of others: they mention the same keywords (`ClearImport.mentions_iff`), and have
sublocations of the same names (`ClearImport.samePlace`). A spawn table comes back as it was
just if its keys name their places as an export does (`ClearImport.same_spawnTable_iff`).

A node is found again by its place among the nodes of its kind. The numbers that an import gives
out are no help here, since sublocations of one location with the same name come back as one node
and all later numbers move.
-/

set_option autoImplicit false

namespace StoryWorld

/-- The names of the sublocations of an imported location are those that its entry lists. -/
theorem Draft.Assembled.exists_named_sublocation_iff {config : Config} {total : Nat}
    {items : List (Nat × Entry)} {last : Draft} (whole : Assembled config total items last [])
    {placed : Placement} (member : placed ∈ locationPlacements config total items)
    {name : String} :
    (∃ room ∈ last.outcome.world.sublocationsOf placed.id, room.name = name) ↔
      name ∈ placed.entry.sublocationNames := by
  have isLocation := isLocation_of_mem member
  have nodes : (placed.sublocations config.graph).map Node.name =
      placed.entry.sublocationNames := Placement.map_name_sublocations config.graph isLocation
  rw [← nodes, List.mem_map]
  constructor
  · rintro ⟨room, isRoom, named⟩
    obtain ⟨inside, below⟩ := Snapshot.mem_sublocationsOf.1 isRoom
    obtain ⟨other, isOther, listed⟩ :=
      exists_placed_of_room whole.nodes inside (Node.type_of_parent below)
    have same : other.id = placed.id := Option.some.inj
      ((Placement.parent_of_mem_sublocations listed).symm.trans below)
    have equal : other = placed :=
      List.inj_on_of_nodup_map (whole.nodup_mentioners .adjacent) isOther member same
    exact ⟨room, equal ▸ listed, named⟩
  · rintro ⟨room, listed, named⟩
    refine ⟨room, Snapshot.mem_sublocationsOf.2
      ⟨?_, Placement.parent_of_mem_sublocations listed⟩, named⟩
    change room ∈ last.nodes
    rw [whole.nodes]
    exact List.mem_append_left _
      (List.mem_flatMap.2 ⟨placed, member, List.mem_cons_of_mem _ listed⟩)

namespace Snapshot

/-! ## Places of the same words -/

/-- Two locations of two worlds go by the same keywords, and so do their sublocations by their
names. -/
structure SamePlace (world other : Snapshot) (place copy : Node) : Prop where
  keywords : copy.keywords = place.keywords
  rooms : ∀ name, (∃ room ∈ other.sublocationsOf copy.id, room.name = name) ↔
    ∃ room ∈ world.sublocationsOf place.id, room.name = name

theorem SamePlace.symm {world other : Snapshot} {place copy : Node}
    (same : world.SamePlace other place copy) : other.SamePlace world copy place :=
  ⟨same.keywords.symm, fun name => (same.rooms name).symm⟩

theorem SamePlace.firstKeyword {world other : Snapshot} {place copy : Node}
    (same : world.SamePlace other place copy) : copy.firstKeyword = place.firstKeyword := by
  rw [Node.firstKeyword, same.keywords, Node.firstKeyword]

/-- A key names its place plainly in every world whose places go by the same words. -/
theorem NamesPlainly.of_samePlaces {world other : Snapshot}
    (each : List.Forall₂ (world.SamePlace other) (world.nodesOf .location)
      (other.nodesOf .location)) {table : Table String Float} {key : String}
    (plain : world.NamesPlainly table key) : other.NamesPlainly table key := by
  rcases plain with ⟨place, isKey⟩ | ⟨place, isPlace, room, isKey, below, above⟩
  · obtain ⟨copy, isCopy, same⟩ := exists_right_of_forall₂ each isKey.member
    exact Or.inl ⟨copy, isCopy, same.firstKeyword.trans isKey.known⟩
  · obtain ⟨copy, isCopy, same⟩ := exists_right_of_forall₂ each isPlace
    have listed : room ∈ world.sublocationsOf place.id :=
      mem_sublocationsOf.2 ⟨(mem_nodesOf.1 isKey.member).1, below⟩
    obtain ⟨one, isOne, named⟩ := (same.rooms key).2 ⟨room, listed, isKey.named⟩
    obtain ⟨inside, belowCopy⟩ := mem_sublocationsOf.1 isOne
    refine Or.inr ⟨copy, isCopy, one, ⟨?_, named, ?_⟩, belowCopy, ?_⟩
    · exact mem_nodesOf.2 ⟨inside, Node.type_of_parent belowCopy⟩
    · intro again isAgain known
      obtain ⟨stem, isStem, alike⟩ := exists_left_of_forall₂ each isAgain
      exact isKey.free stem isStem (alike.keywords ▸ known)
    · exact fun keyword known => above keyword (same.firstKeyword.symm.trans known)

/-- The keys of the spawn table of an entry are written as an export writes them: the word for
everywhere stands alone, and otherwise each key names its place plainly. -/
def WritesPlainly (world : Snapshot) (entry : Entry) : Prop :=
  ∀ key ∈ entry.spawnTable.keys,
    if entry.isAnywhere then key = anyLocation else world.NamesPlainly entry.spawnTable key

/-! ## Imports without collisions -/

/-- The last draft of an import of the entries of a world, where no words collide. -/
structure ClearImport (world : Snapshot) (config : Config) (last : Draft) : Prop where
  valid : world.Valid
  typed : world.Typed
  whole : Draft.Assembled config world.entries.length world.items last []
  free : last.outcome.report.collisions = []

/-- A node of a kind stands beside the placement of its own entry. -/
structure Beside (world : Snapshot) (config : Config) (kind : NodeType) (type : EdgeType)
    (node : Node) (placed : Placement) : Prop where
  place : (node, placed) ∈
    (world.nodesOf kind).zip (mentioners config world.entries.length world.items type)
  keywords : placed.entry.keywords = node.keywords
  keys : ∀ key, key ∈ placed.entry.mentionKeys type ↔ world.Mentions kind type node.id key

theorem Beside.isNode {world : Snapshot} {config : Config} {kind : NodeType} {type : EdgeType}
    {node : Node} {placed : Placement} (beside : world.Beside config kind type node placed) :
    node ∈ world.nodesOf kind :=
  (List.of_mem_zip beside.place).1

theorem Beside.isPlaced {world : Snapshot} {config : Config} {kind : NodeType} {type : EdgeType}
    {node : Node} {placed : Placement} (beside : world.Beside config kind type node placed) :
    placed ∈ mentioners config world.entries.length world.items type :=
  (List.of_mem_zip beside.place).2

/-- A node and what is made of its entry have the same first keyword. -/
theorem Beside.firstKeyword {world : Snapshot} {config : Config} {kind : NodeType}
    {type : EdgeType} {node : Node} {placed : Placement}
    (beside : world.Beside config kind type node placed) :
    (placed.node config.graph).firstKeyword = node.firstKeyword := by
  rw [Node.firstKeyword, Placement.keywords_node, beside.keywords, Node.firstKeyword]

namespace ClearImport

variable {world : Snapshot} {config : Config} {last : Draft}
  (clear : world.ClearImport config last)

include clear

/-! ## Mentions -/

section Mentions

variable {kind : NodeType} {type : EdgeType} (bond : Mutual kind type)

include bond

theorem forall₂_beside :
    List.Forall₂ (world.Beside config kind type) (world.nodesOf kind)
      (mentioners config world.entries.length world.items type) :=
  (forall₂_and_mem_zip (clear.typed.forall₂_mentioners clear.valid bond)).imp
    fun _ _ ⟨place, keywords, keys⟩ => ⟨place, keywords, keys⟩

/-- Placements of one identity are the same and stand beside the same node. -/
theorem eq_of_beside {node other : Node} {placed second : Placement}
    (one : world.Beside config kind type node placed)
    (also : world.Beside config kind type other second) (same : placed.id = second.id) :
    node = other ∧ placed = second := by
  have distinct := clear.whole.nodup_mentioners bond
  have equal : placed = second :=
    List.inj_on_of_nodup_map distinct one.isPlaced also.isPlaced same
  subst equal
  exact ⟨eq_left_of_mem_zip (distinct.of_map Placement.id) one.place also.place, rfl⟩

theorem node_mem_nodesOf {node : Node} {placed : Placement}
    (beside : world.Beside config kind type node placed) :
    placed.node config.graph ∈ last.outcome.world.nodesOf kind := by
  rw [Draft.nodesOf_mentioners clear.whole.nodes bond]
  exact List.mem_map_of_mem beside.isPlaced

/-- The first keyword of a node leads to what is made of its entry. -/
theorem declarer?_of_beside {node : Node} {placed : Placement}
    (beside : world.Beside config kind type node placed) {key : String}
    (known : node.firstKeyword = some key) :
    declarer? last.nodes kind (Text.lowercase key) = some placed.id :=
  clear.whole.declarer?_of_mem clear.free bond (clear.node_mem_nodesOf bond beside)
    (Node.lowercase_mem_of_firstKeyword (beside.firstKeyword.trans known))

/-- **What is mentioned comes back.** A node and what is made of its entry mention the same
keywords. -/
theorem mentions_iff {node : Node} {placed : Placement}
    (beside : world.Beside config kind type node placed) {key : String} :
    last.outcome.world.Mentions kind type placed.id key ↔
      world.Mentions kind type node.id key := by
  have each := clear.forall₂_beside bond
  constructor
  · rintro ⟨copy, isCopy, joined, known⟩
    rw [Draft.nodesOf_mentioners clear.whole.nodes bond] at isCopy
    obtain ⟨second, isSecond, rfl⟩ := List.mem_map.1 isCopy
    obtain ⟨placedBy, isPlacedBy, word, listed, id, found, ends⟩ :=
      clear.whole.exists_mention_of_joined bond joined
    obtain ⟨teller, isTeller, besideTeller⟩ := exists_left_of_forall₂ each isPlacedBy
    obtain ⟨told, isTold, joinedTold, knownTold⟩ := (besideTeller.keys word).1 listed
    obtain ⟨placedTold, -, besideTold⟩ := exists_right_of_forall₂ each isTold
    rw [clear.declarer?_of_beside bond besideTold knownTold, Option.some.injEq] at found
    subst found
    -- The mention is that of the node itself or of the other one.
    rcases ends with ⟨here, there⟩ | ⟨there, here⟩
    · obtain ⟨rfl, -⟩ := clear.eq_of_beside bond besideTeller beside here
      have same : placedTold = second :=
        List.inj_on_of_nodup_map (clear.whole.nodup_mentioners bond) besideTold.isPlaced
          isSecond there
      exact ⟨told, isTold, joinedTold, besideTold.firstKeyword.symm.trans (same ▸ known)⟩
    · obtain ⟨rfl, -⟩ := clear.eq_of_beside bond besideTold beside here
      have same : placedBy = second := List.inj_on_of_nodup_map (clear.whole.nodup_mentioners bond)
        isPlacedBy isSecond there
      exact ⟨teller, isTeller, joinedTold.symm,
        besideTeller.firstKeyword.symm.trans (same ▸ known)⟩
  · rintro ⟨other, isOther, joined, known⟩
    obtain ⟨second, -, besideOther⟩ := exists_right_of_forall₂ each isOther
    have listed := (beside.keys key).2 ⟨other, isOther, joined, known⟩
    have found := clear.declarer?_of_beside bond besideOther known
    refine ⟨second.node config.graph, clear.node_mem_nodesOf bond besideOther, ?_,
      besideOther.firstKeyword.trans known⟩
    refine (clear.whole.eq_or_joined_of_mention bond beside.isPlaced listed found).resolve_left ?_
    intro same
    obtain ⟨-, -, -, apart⟩ := (clear.typed.joinsApart bond).other_end joined
    exact apart (congrArg Node.id (clear.eq_of_beside bond besideOther beside same).1).symm

end Mentions

/-! ## Places -/

/-- A location comes back with the same words. -/
theorem samePlace {place : Node} {placed : Placement}
    (beside : world.Beside config .location .adjacent place placed) :
    world.SamePlace last.outcome.world place (placed.node config.graph) where
  keywords := beside.keywords
  rooms := fun name => by
    have entry : placed.entry = world.locationEntry place :=
      List.forall₂_zip (world.forall₂_locationPlacements config) beside.place
    rw [Placement.id_node, clear.whole.exists_named_sublocation_iff beside.isPlaced, entry,
      mem_sublocationNames_locationEntry]

theorem forall₂_samePlace :
    List.Forall₂ (world.SamePlace last.outcome.world) (world.nodesOf .location)
      (last.outcome.world.nodesOf .location) := by
  rw [Draft.nodesOf_location clear.whole.nodes, List.forall₂_map_right_iff]
  exact (clear.forall₂_beside .adjacent).imp fun _ _ => clear.samePlace

/-- A key names its place plainly in the world just if it does so in the one that comes back. -/
theorem namesPlainly_iff {table : Table String Float} {key : String} :
    last.outcome.world.NamesPlainly table key ↔ world.NamesPlainly table key := by
  have each := clear.forall₂_samePlace
  refine ⟨.of_samePlaces (List.Forall₂.flip ?_), .of_samePlaces each⟩
  exact each.imp fun _ _ same => same.symm

/-! ## Spawn tables -/

/-- A key of a spawn table that names no location has a chance greater than zero. -/
theorem positive_of_namedLocation? {id : ElementId} {spawn : String × Float}
    (listed : spawn ∈ (world.spawnTable id).entries)
    (unnamed : last.namedLocation? spawn.1 = none) : 0 < spawn.2 := by
  obtain ⟨edge, isEdge, -, said⟩ :=
    mem_spawns.1 (Table.mem_of_get?_ofList (Table.get?_eq_some_iff.2 listed))
  rcases mem_edgeSpawns.1 said with ⟨overrides, -, known⟩ | ⟨-, positive⟩
  · obtain ⟨-, -, place, isPlace, -, toThere, -⟩ := clear.typed.spawn_ends isEdge
    rw [← toThere, clear.valid.keyword?_eq (mem_nodesOf.1 isPlace).1] at known
    obtain ⟨placed, -, beside⟩ := exists_right_of_forall₂ (clear.forall₂_beside .adjacent) isPlace
    have found := clear.declarer?_of_beside .adjacent beside known
    rw [← clear.whole.indexed.locations] at found
    cases unnamed.symm.trans found
  · exact positive

/-- **Which spawn tables come back.** The spawn table of a character or an event comes back as it
was just if its keys are written as an export writes them. -/
theorem same_spawnTable_iff {node : Node} {placed : Placement}
    (member : placed ∈ castPlacements config world.entries.length world.items)
    (entry : placed.entry = world.castEntry node) :
    (world.castEntry node).spawnTable.Same
        (last.outcome.world.castEntry (placed.node config.graph)).spawnTable ↔
      world.WritesPlainly (world.castEntry node) := by
  rw [← entry, WritesPlainly]
  cases anywhere : placed.entry.isAnywhere with
  | false =>
    have copyBound : (placed.node config.graph).isGlobalEvent = false := by
      rw [Placement.isGlobalEvent_node, anywhere]
    have bound : node.isGlobalEvent = false := by
      refine Bool.eq_false_iff.2 fun global => ?_
      rw [entry, isAnywhere_castEntry global] at anywhere
      cases anywhere
    have table : placed.entry.spawnTable = world.spawnTable node.id := by
      rw [entry, spawnTable_castEntry bound]
    rw [spawnTable_castEntry copyBound, Placement.id_node,
      clear.whole.same_spawnTable_iff clear.free member anywhere]
    · simp only [clear.namesPlainly_iff, Bool.false_eq_true, if_false]
    · rw [table]
      exact fun spawn => clear.positive_of_namedLocation?
  | true =>
    obtain ⟨category, some⟩ := (Bool.and_eq_true _ _).mp anywhere
    obtain ⟨chance, found⟩ := Option.isSome_iff_exists.1 some
    have kind : (placed.node config.graph).kind =
        .event (placed.entry.timeFilter.getD []) true chance := by
      change placed.entry.nodeKind config.graph = _
      rw [Entry.nodeKind, of_decide_eq_true category, found]
      rfl
    rw [spawnTable_castEntry_of_global kind, Table.same_singleton_iff found]
    simp only [if_true]

end ClearImport

end Snapshot

end StoryWorld

import StoryWorld.Proofs.Lore.ToldEdges

/-!
# Worlds that come back whole

On canonical worlds (`Snapshot.Canonical`) an import undoes an export up to renumbering
(`Snapshot.import_entries_renumbered`). Every node comes back with a new identity and a new place on
the canvas and is the same otherwise. Every edge comes back between the same nodes, except that an
edge without direction may be turned around, and what either side of an acquaintance thinks is
turned around with it.

In a canonical world no two edges join the same nodes, so what is known of each table of an entry
(`Canonical.get?_spawnTable_iff`) is known of each edge.
-/

set_option autoImplicit false

namespace StoryWorld

/-! ## Renumbering -/

/-- The kind of a node where identities are changed. -/
def NodeKind.moved (rename : ElementId → ElementId) : NodeKind → NodeKind
  | .sublocation parent => .sublocation (rename parent)
  | kind => kind

/-- A node that is the same as another one but for its identity and its place on the canvas. -/
def Node.Renumbered (rename : ElementId → ElementId) (node copy : Node) : Prop :=
  copy = { node with
    id := rename node.id
    position := copy.position
    kind := node.kind.moved rename }

/-- An edge that says the same as another one of the same nodes. Without direction it may lead the
other way. -/
inductive Edge.Renumbered (rename : ElementId → ElementId) : Edge → Edge → Prop
  | spawn {id other source target : ElementId} {probability : Float}
      {overrides others : Table String Float} (same : overrides.Same others) :
      Edge.Renumbered rename ⟨id, source, target, .spawn probability overrides⟩
        ⟨other, rename source, rename target, .spawn probability others⟩
  | adjacent {id other source target : ElementId} :
      Edge.Renumbered rename ⟨id, source, target, .adjacent⟩
        ⟨other, rename source, rename target, .adjacent⟩
  | adjacentBack {id other source target : ElementId} :
      Edge.Renumbered rename ⟨id, source, target, .adjacent⟩
        ⟨other, rename target, rename source, .adjacent⟩
  | knows {id other source target : ElementId} {relationship sourceThinks targetThinks : String} :
      Edge.Renumbered rename ⟨id, source, target, .knows relationship sourceThinks targetThinks⟩
        ⟨other, rename source, rename target, .knows relationship sourceThinks targetThinks⟩
  | knowsBack {id other source target : ElementId}
      {relationship sourceThinks targetThinks : String} :
      Edge.Renumbered rename ⟨id, source, target, .knows relationship sourceThinks targetThinks⟩
        ⟨other, rename target, rename source, .knows relationship targetThinks sourceThinks⟩

/-- Nodes that say nothing that entries cannot say of them. -/
structure Node.Plain (settings : GraphSettings) (node : Node) : Prop where
  images : node.images.cleaned = node.images
  short : node.type = .location ∨ node.type = .character → node.contentShort ≠ none
  noShort : node.type = .event → node.contentShort = none
  named : node.type = .event → node.name ≠ ""
  chances : ∀ timeFilter chance, node.kind = .event timeFilter false chance →
    chance = settings.defaultGlobalSpawnChance
  bare : node.type = .sublocation →
    node.keywords = [] ∧ node.content = "" ∧ node.contentShort = none ∧ node.filters = .none

/-- What an import makes of a plain node is the node itself, renumbered. -/
theorem Node.Plain.renumbered {settings : GraphSettings} {rename : ElementId → ElementId}
    {node copy : Node} (plain : node.Plain settings)
    (carried : node.CarriedTo settings rename copy) : node.Renumbered rename copy := by
  have images := plain.images
  have shown : node.type = .location ∨ node.type = .character →
      some (node.contentShort.getD "") = node.contentShort := by
    intro typed
    obtain ⟨text, short⟩ := Option.ne_none_iff_exists'.1 (plain.short typed)
    rw [short]
    rfl
  refine Eq.trans carried ?_
  cases kind : node.kind with
  | location =>
    rw [Node.carried_location _ _ _ kind, images, shown (Or.inl (congrArg NodeKind.type kind))]
    rfl
  | character disabledFor =>
    rw [Node.carried_character _ _ _ kind, images, shown (Or.inr (congrArg NodeKind.type kind))]
    rfl
  | event timeFilter isGlobal chance =>
    have typed : node.type = .event := congrArg NodeKind.type kind
    have kept : (if isGlobal then chance else settings.defaultGlobalSpawnChance) = chance := by
      cases isGlobal with
      | true => rfl
      | false => exact (plain.chances timeFilter chance kind).symm
    rw [Node.carried_event _ _ _ kind, images, kept, if_neg (plain.named typed),
      ← plain.noShort typed]
    rfl
  | sublocation parent =>
    obtain ⟨keywords, content, short, filters⟩ := plain.bare (congrArg NodeKind.type kind)
    rw [Node.carried_sublocation _ _ _ kind, images, keywords, content, short, filters]
    rfl

theorem Edge.Renumbered.follows {rename : ElementId → ElementId} {edge copy : Edge}
    (same : edge.Renumbered rename copy) : edge.Follows rename copy := by
  cases same with
  | spawn same => exact ⟨rfl, Or.inl ⟨rfl, rfl⟩, fun _ => ⟨rfl, rfl⟩⟩
  | adjacent => exact ⟨rfl, Or.inl ⟨rfl, rfl⟩, EdgeType.noConfusion⟩
  | adjacentBack => exact ⟨rfl, Or.inr ⟨rfl, rfl⟩, EdgeType.noConfusion⟩
  | knows => exact ⟨rfl, Or.inl ⟨rfl, rfl⟩, EdgeType.noConfusion⟩
  | knowsBack => exact ⟨rfl, Or.inr ⟨rfl, rfl⟩, EdgeType.noConfusion⟩

/-- An edge that follows an adjacency says the same, one way or the other. -/
theorem Edge.Follows.renumbered_adjacent {rename : ElementId → ElementId} {edge copy : Edge}
    (follows : edge.Follows rename copy) (own : copy.type = .adjacent) :
    edge.Renumbered rename copy := by
  have typed := follows.type.symm.trans own
  have ends := follows.ends
  obtain ⟨id, source, target, kind⟩ := edge
  obtain ⟨other, copySource, copyTarget, copyKind⟩ := copy
  cases kind with
  | spawn | knows => cases typed
  | adjacent =>
    cases copyKind with
    | spawn | knows => cases own
    | adjacent =>
      rcases ends with ⟨rfl, rfl⟩ | ⟨rfl, rfl⟩
      · exact .adjacent
      · exact .adjacentBack

/-- An acquaintance that is told from either side says the same, one way or the other. -/
theorem Edge.renumbered_knows {rename : ElementId → ElementId} {edge copy : Edge}
    {first second : ElementId} (own : edge.type = .knows) (differ : edge.source ≠ edge.target)
    (joins : edge.joins first second = true)
    (link : copy.link = ⟨rename first, rename second, .knows (edge.seenFrom first).relationship
      (edge.seenFrom first).thoughts (edge.seenFrom second).thoughts⟩) :
    edge.Renumbered rename copy := by
  obtain ⟨id, source, target, kind⟩ := edge
  obtain ⟨other, copySource, copyTarget, copyKind⟩ := copy
  obtain ⟨rfl, rfl, rfl⟩ := Link.mk.inj link
  cases kind with
  | spawn | adjacent => cases own
  | knows relationship sourceThinks targetThinks =>
    rcases of_decide_eq_true joins with ⟨rfl, rfl⟩ | ⟨rfl, rfl⟩
    · simp only [seenFrom, if_true, if_neg differ]
      exact .knows
    · simp only [seenFrom, if_true, if_neg differ]
      exact .knowsBack

namespace Snapshot

/-- A world that is the same as another one but for identities, places on the canvas, and the order
of nodes and of edges. -/
structure Renumbered (rename : ElementId → ElementId) (world copy : Snapshot) : Prop where
  injective : ∀ first ∈ world.nodes, ∀ second ∈ world.nodes,
    rename first.id = rename second.id → first = second
  nodes : ∃ order : List Node, order.Perm world.nodes ∧
    List.Forall₂ (Node.Renumbered rename) order copy.nodes
  edges : ∃ order : List Edge, order.Perm world.edges ∧
    List.Forall₂ (Edge.Renumbered rename) order copy.edges

/-! ## Canonical worlds -/

/-- Worlds that say nothing twice and nothing that entries cannot say. -/
structure Canonical (settings : GraphSettings) (world : Snapshot) : Prop where
  typed : world.Typed
  /-- At most one edge joins two nodes. -/
  simple : ∀ first ∈ world.edges, ∀ second ∈ world.edges,
    second.joins first.source first.target = true → first = second
  keyed : ∀ type ∈ [NodeType.location, NodeType.character], ∀ node ∈ world.nodesOf type,
    node.keywords ≠ []
  /-- No two locations, and no two characters, share a keyword in lowercase. -/
  keywords : ∀ type ∈ [NodeType.location, NodeType.character],
    ∀ first ∈ world.nodesOf type, ∀ second ∈ world.nodesOf type,
      ∀ word ∈ first.keywords.map Text.lowercase, word ∈ second.keywords.map Text.lowercase →
        first = second
  /-- No two sublocations share a name in lowercase. -/
  names : ∀ first ∈ world.nodesOf .sublocation, ∀ second ∈ world.nodesOf .sublocation,
    Text.lowercase first.name = Text.lowercase second.name → first = second
  /-- No sublocation is named like a keyword of a location. -/
  free : ∀ room ∈ world.nodesOf .sublocation, ∀ place ∈ world.nodesOf .location,
    Text.lowercase room.name ∉ place.keywords.map Text.lowercase
  places : ∀ place ∈ world.nodesOf .location, place.firstKeyword ≠ some anyLocation
  rooms : ∀ room ∈ world.nodesOf .sublocation, room.name ≠ anyLocation
  /-- Overrides are positive and about sublocations of the target. -/
  overrides : ∀ edge ∈ world.edges, ∀ override ∈ edge.kind.overrides.entries,
    0 < override.2 ∧ ∃ room ∈ world.sublocationsOf edge.target, room.name = override.1
  /-- Global events have no edges. -/
  alone : ∀ node ∈ world.nodes, node.isGlobalEvent = true →
    ∀ edge ∈ world.edges, edge.touches node.id = false
  /-- Other events have the chance that an import gives them. -/
  chances : ∀ node ∈ world.nodes, ∀ timeFilter chance,
    node.kind = .event timeFilter false chance → chance = settings.defaultGlobalSpawnChance
  named : ∀ node ∈ world.nodesOf .event, node.name ≠ ""
  short : ∀ type ∈ [NodeType.location, NodeType.character], ∀ node ∈ world.nodesOf type,
    node.contentShort ≠ none
  noShort : ∀ node ∈ world.nodesOf .event, node.contentShort = none
  /-- Sublocations have a name and images only. -/
  bare : ∀ room ∈ world.nodesOf .sublocation,
    room.keywords = [] ∧ room.content = "" ∧ room.contentShort = none ∧ room.filters = .none
  images : ∀ node ∈ world.nodes, node.images.cleaned = node.images

variable {settings : GraphSettings} {world : Snapshot}

section Canonical

variable (canonical : world.Canonical settings)

include canonical

theorem Canonical.unambiguous : world.Unambiguous where
  keywords := canonical.keywords
  names := canonical.names
  overrides := fun edge member override listed _ => by
    obtain ⟨-, room, isRoom, named⟩ := canonical.overrides edge member override listed
    refine ⟨⟨room, isRoom, named⟩, ?_⟩
    obtain ⟨inside, below⟩ := mem_sublocationsOf.1 isRoom
    rw [← named]
    exact canonical.free room (mem_nodesOf.2 ⟨inside, Node.type_of_parent below⟩)
  places := canonical.places
  rooms := canonical.rooms

theorem Canonical.keyed_of_mutual {kind : NodeType} {type : EdgeType} (bond : Mutual kind type)
    {node : Node} (member : node ∈ world.nodesOf kind) : node.firstKeyword ≠ none := by
  rw [Node.firstKeyword, Ne, List.head?_eq_none_iff]
  refine canonical.keyed kind ?_ node member
  cases bond <;> simp

theorem Canonical.plain {node : Node} (member : node ∈ world.nodes) : node.Plain settings where
  images := canonical.images node member
  short := by
    rintro (typed | typed)
    · exact canonical.short .location (by simp) node (mem_nodesOf.2 ⟨member, typed⟩)
    · exact canonical.short .character (by simp) node (mem_nodesOf.2 ⟨member, typed⟩)
  noShort := fun typed => canonical.noShort node (mem_nodesOf.2 ⟨member, typed⟩)
  named := fun typed => canonical.named node (mem_nodesOf.2 ⟨member, typed⟩)
  chances := canonical.chances node member
  bare := fun typed => canonical.bare node (mem_nodesOf.2 ⟨member, typed⟩)

/-! ## Spawn edges -/

theorem Canonical.exists_roomKey {edge : Edge} (member : edge ∈ world.edges)
    {override : String × Float} (listed : override ∈ edge.kind.overrides.entries) :
    ∃ room, world.RoomKey room override.1 ∧ room.parent = some edge.target := by
  obtain ⟨positive, -⟩ := canonical.overrides edge member override listed
  obtain ⟨⟨room, isRoom, named⟩, free⟩ :=
    canonical.unambiguous.overrides edge member override listed positive
  obtain ⟨inside, below⟩ := mem_sublocationsOf.1 isRoom
  exact ⟨room, ⟨mem_nodesOf.2 ⟨inside, Node.type_of_parent below⟩, named, free⟩, below⟩

theorem Canonical.eq_of_ends {first second : Edge} (isFirst : first ∈ world.edges)
    (isSecond : second ∈ world.edges) (sources : first.source = second.source)
    (targets : first.target = second.target) : first = second :=
  canonical.simple first isFirst second isSecond
    (decide_eq_true (Or.inl ⟨sources.symm, targets.symm⟩))

section Valid

variable (valid : world.Valid)

include valid

/-- The spawn table of a node holds all that its edges say. -/
theorem Canonical.get?_spawnTable_iff {id : ElementId} {key : String} {value : Float} :
    (world.spawnTable id).get? key = some value ↔
      ∃ edge ∈ world.edgesOf .spawn, edge.source = id ∧ (key, value) ∈ world.edgeSpawns edge := by
  rw [← mem_spawns]
  refine Table.get?_ofList_iff fun key value other said alsoSaid => ?_
  obtain ⟨edge, isEdge, fromHere, here⟩ := mem_spawns.1 said
  obtain ⟨second, isSecond, alsoFromHere, there⟩ := mem_spawns.1 alsoSaid
  exact (canonical.unambiguous.eq_of_said valid canonical.typed canonical.simple isEdge isSecond
    (fromHere.trans alsoFromHere.symm) here there).2

/-- The overrides of a spawn edge are what the spawn table of its source says about sublocations of
its target. -/
theorem Canonical.get?_overrides_iff {edge : Edge} (member : edge ∈ world.edgesOf .spawn)
    {name : String} {value : Float} :
    edge.kind.overrides.get? name = some value ↔
      (world.spawnTable edge.source).get? name = some value ∧
        ∃ room, world.RoomKey room name ∧ room.parent = some edge.target := by
  have clear := canonical.unambiguous
  have inside := (mem_edgesOf.1 member).1
  rw [Table.get?_eq_some_iff, canonical.get?_spawnTable_iff valid]
  constructor
  · intro listed
    have positive := (canonical.overrides edge inside _ listed).1
    exact ⟨⟨edge, member, rfl, mem_edgeSpawns.2 (Or.inr ⟨listed, positive⟩)⟩,
      canonical.exists_roomKey inside listed⟩
  · rintro ⟨⟨other, isOther, fromHere, said⟩, room, roomKey, below⟩
    obtain ⟨place, -, toPlace, placeKey | ⟨second, secondKey, alsoBelow, listed, -⟩⟩ :=
      clear.spawn_cases valid canonical.typed isOther said
    · exact absurd roomKey placeKey.1.not_roomKey
    · rw [clear.eq_of_roomKey secondKey roomKey, below, toPlace] at alsoBelow
      rwa [canonical.eq_of_ends inside (mem_edgesOf.1 isOther).1 fromHere.symm
        (Option.some.inj alsoBelow)]

/-- The target of a spawn edge has a keyword, so the edge says its probability. -/
theorem Canonical.exists_said {edge : Edge} (member : edge ∈ world.edgesOf .spawn) :
    ∃ key probability overrides, world.keyword? edge.target = some key ∧
      edge.kind = .spawn probability overrides ∧ (key, probability) ∈ world.edgeSpawns edge := by
  obtain ⟨_, -, place, isPlace, -, toThere, -⟩ := canonical.typed.spawn_ends member
  obtain ⟨key, known⟩ := Option.ne_none_iff_exists'.1
    (canonical.keyed_of_mutual .adjacent isPlace)
  have keyword : world.keyword? edge.target = some key := by
    rw [← toThere, valid.keyword?_eq (mem_nodesOf.1 isPlace).1, known]
  obtain ⟨probability, overrides, kind, said⟩ := exists_said_of_keyword? member keyword
  exact ⟨key, probability, overrides, keyword, kind, said⟩

/-- A spawn edge comes back with its probability and its overrides. -/
theorem Canonical.renumbered_spawn {edge copy : Edge} (member : edge ∈ world.edgesOf .spawn)
    (copies : world.SpawnCopy settings edge copy.link) :
    edge.Renumbered world.renamed copy := by
  obtain ⟨key, probability, overrides, keyword, kind, saidHere⟩ :=
    canonical.exists_said valid member
  have chance : (world.spawnTable edge.source).get? key = some probability :=
    (canonical.get?_spawnTable_iff valid).2 ⟨edge, member, rfl, saidHere⟩
  obtain ⟨others, said, bound⟩ := copies.kind
  have same : overrides.Same others := by
    refine Table.same_of_get?_iff fun name value => ?_
    rw [bound, ← canonical.get?_overrides_iff valid member, kind]
    rfl
  rw [keyword, Option.bind_some, chance, Option.getD_some] at said
  have copyKind : copy.kind = .spawn probability others := said
  have fromHere : copy.source = world.renamed edge.source := copies.source
  have toCopy : copy.target = world.renamed edge.target := copies.target
  obtain ⟨id, source, target, ownKind⟩ := edge
  obtain ⟨other, copySource, copyTarget, otherKind⟩ := copy
  subst kind copyKind fromHere toCopy
  exact .spawn same

end Valid

end Canonical

/-! ## Edges that come back -/

section Reimport

variable {config : Config} {last : Draft} (canonical : world.Canonical config.graph)
  (again : world.Reimport config last)

include canonical again

/-- Every edge that comes back says the same as one of the world. -/
theorem Canonical.exists_renumbered {copy : Edge} (member : copy ∈ last.edges) :
    ∃ edge ∈ world.edges, edge.Renumbered world.renamed copy := by
  have typed : copy ∈ last.outcome.world.edgesOf copy.type := mem_edgesOf.2 ⟨member, rfl⟩
  cases own : copy.type with
  | spawn =>
    obtain ⟨edge, isSpawn, copies⟩ := again.stem_of_spawnEdge (own ▸ typed)
    exact ⟨edge, (mem_edgesOf.1 isSpawn).1,
      canonical.renumbered_spawn again.valid isSpawn copies⟩
  | adjacent =>
    obtain ⟨edge, inside, follows⟩ := again.exists_followed member
    exact ⟨edge, inside, follows.renumbered_adjacent own⟩
  | knows =>
    have once := (Draft.mem_links_iff .knows).1 ⟨again.whole.link_mem member, own⟩
    obtain ⟨first, isFirst, second, -, -, edge, between, link⟩ :=
      again.mem_knowsLinks_iff.1 ((linksOnce_sublist _ _).subset once)
    obtain ⟨key, known⟩ := Option.ne_none_iff_exists'.1 (canonical.keyed_of_mutual .knows isFirst)
    rw [acquaintanceLink, known, Option.map_some, Option.getD_some] at link
    obtain ⟨isEdge, joins⟩ := joins_of_lastAcquaintance? between
    obtain ⟨-, -, -, -, -, -, differ⟩ := canonical.typed.joinsApart .knows _ isEdge
    obtain ⟨inside, isKnows⟩ := mem_edgesOf.1 isEdge
    exact ⟨edge, inside, Edge.renumbered_knows isKnows differ joins link⟩

/-- Every edge of the world comes back. -/
theorem Canonical.exists_follower {edge : Edge} (member : edge ∈ world.edges) :
    ∃ copy ∈ last.edges, edge.Follows world.renamed copy := by
  have mutually : ∀ {kind : NodeType} {type : EdgeType}, Mutual kind type → edge.type = type →
      ∃ copy ∈ last.edges, edge.Follows world.renamed copy := by
    intro kind type bond own
    have isEdge : edge ∈ world.edgesOf type := mem_edgesOf.2 ⟨member, own⟩
    obtain ⟨source, isSource, target, isTarget, fromHere, toThere, -⟩ :=
      canonical.typed.joinsApart bond _ isEdge
    have joined : world.Joined type source.id target.id :=
      ⟨edge, isEdge, decide_eq_true (Or.inl ⟨fromHere.symm, toThere.symm⟩)⟩
    obtain ⟨copy, isCopy, joins⟩ := again.joined_copy bond isSource isTarget joined
      (canonical.keyed_of_mutual bond isTarget)
    rw [fromHere, toThere] at joins
    obtain ⟨inside, typed⟩ := mem_edgesOf.1 isCopy
    refine ⟨copy, inside, typed.trans own.symm, of_decide_eq_true joins, fun spawn => ?_⟩
    rw [own] at spawn
    cases bond <;> cases spawn
  cases own : edge.type with
  | adjacent => exact mutually .adjacent own
  | knows => exact mutually .knows own
  | spawn =>
    have isSpawn : edge ∈ world.edgesOf .spawn := mem_edgesOf.2 ⟨member, own⟩
    obtain ⟨node, isNode, -, -, fromHere, -, typed⟩ := canonical.typed.spawn_ends isSpawn
    have bound : node.isGlobalEvent = false := by
      cases anywhere : node.isGlobalEvent with
      | false => rfl
      | true =>
        have apart := canonical.alone node isNode anywhere edge member
        exact absurd (Or.inl fromHere.symm) (of_decide_eq_false apart)
    obtain ⟨key, probability, overrides, -, -, said⟩ := canonical.exists_said again.valid isSpawn
    obtain ⟨copy, isCopy, copies⟩ := again.exists_spawnEdge (mem_castNodes.2 ⟨isNode, typed⟩)
      bound isSpawn fromHere.symm (List.ne_nil_of_mem said)
    exact ⟨copy, (mem_edgesOf.1 isCopy).1,
      (canonical.renumbered_spawn again.valid isSpawn copies).follows⟩

/-- No edge follows two others. -/
theorem Canonical.eq_of_follows {first second copy : Edge} (isFirst : first ∈ world.edges)
    (isSecond : second ∈ world.edges) (follows : first.Follows world.renamed copy)
    (also : second.Follows world.renamed copy) : first = second := by
  obtain ⟨source, isSource, target, isTarget, fromHere, toThere, -⟩ :=
    canonical.typed first isFirst
  obtain ⟨start, isStart, goal, isGoal, fromStart, toGoal, -⟩ := canonical.typed second isSecond
  have told : ∀ {node other : Node}, node ∈ world.nodes → other ∈ world.nodes → ∀ {id : ElementId},
      id = world.renamed node.id → id = world.renamed other.id → other.id = node.id :=
    fun isNode isOther _ here there =>
      congrArg Node.id (again.valid.renamed_inj isOther isNode (there.symm.trans here))
  refine canonical.simple first isFirst second isSecond (decide_eq_true ?_)
  have ends := follows.ends
  have alsoEnds := also.ends
  rw [← fromHere, ← toThere] at ends
  rw [← fromStart, ← toGoal] at alsoEnds
  rw [← fromHere, ← toThere, ← fromStart, ← toGoal]
  rcases ends with ⟨here, there⟩ | ⟨here, there⟩
  · rcases alsoEnds with ⟨alsoHere, alsoThere⟩ | ⟨alsoHere, alsoThere⟩
    · exact Or.inl ⟨told isSource isStart here alsoHere, told isTarget isGoal there alsoThere⟩
    · exact Or.inr ⟨told isTarget isStart there alsoThere, told isSource isGoal here alsoHere⟩
  · rcases alsoEnds with ⟨alsoHere, alsoThere⟩ | ⟨alsoHere, alsoThere⟩
    · exact Or.inr ⟨told isTarget isStart here alsoHere, told isSource isGoal there alsoThere⟩
    · exact Or.inl ⟨told isSource isStart there alsoThere, told isTarget isGoal here alsoHere⟩

/-- The edges come back one for one. -/
theorem Canonical.exists_perm_renumbered : ∃ order : List Edge, order.Perm world.edges ∧
    List.Forall₂ (Edge.Renumbered world.renamed) order last.edges := by
  obtain ⟨order, among, each⟩ :=
    exists_subperm_forall₂ (fun copy member => canonical.exists_renumbered again member)
      (again.whole.pairwise_apart_edges.imp fun apart _ same also =>
        same.follows.not_of_apart apart also.follows)
  refine ⟨order, among.antisymm ?_, each⟩
  refine (again.valid.edges_nodup.of_map Edge.id).subperm fun edge member => ?_
  obtain ⟨copy, isCopy, follows⟩ := canonical.exists_follower again member
  obtain ⟨other, isOther, same⟩ := exists_left_of_forall₂ each isCopy
  rwa [canonical.eq_of_follows again member (among.subset isOther) follows same.follows]

end Reimport

/-- **An import undoes an export.** The entries of a canonical world that is valid import without a
finding, and the world that comes out is the same up to renumbering. -/
theorem import_entries_renumbered (config : Config) (accepted : world.validate = .ok ())
    (fewNodes : world.nodes.length < ElementId.maxOrdinal)
    (fewEdges : world.edges.length < ElementId.maxOrdinal)
    (canonical : world.Canonical config.graph) :
    ∃ outcome, importEntries config world.entries = .ok outcome ∧
      outcome.report.findings = [] ∧ world.Renumbered world.renamed outcome.world := by
  have valid : world.Valid := validate_eq_ok_iff.1 accepted
  have again := canonical.unambiguous.reimport valid canonical.typed config
  refine ⟨(importDraft config world.entries).outcome, again.finish_eq fewNodes fewEdges,
    again.findings_eq_nil, ?_⟩
  exact {
    injective := fun first isFirst second isSecond => valid.renamed_inj isFirst isSecond
    nodes := by
      refine ⟨world.importOrder, valid.importOrder_perm, ?_⟩
      refine (forall₂_and_mem again.copied).imp fun node copy both => ?_
      exact (canonical.plain (valid.mem_importOrder.1 both.1)).renumbered both.2
    edges := canonical.exists_perm_renumbered again }

end Snapshot

/-- A harbour with a tavern behind it, two sailors who know each other, an event that may happen
anywhere and one that happens in the tavern. -/
def harbour : Snapshot :=
  let node (id name : String) (keywords : List String) (kind : NodeKind) : Node :=
    { Node.blank ⟨id⟩ name kind with keywords := keywords, position := ⟨7, 9⟩ }
  { nodes :=
      [node "fog" "Fog" [] (.event ["night"] true 0.25),
        node "brawl" "Brawl" ["brawl"] (.event [] false 0.1),
        node "tavern" "Tavern" [] (.sublocation ⟨"town"⟩),
        node "jack" "Jack" ["Jack"] (.character ["winter"]),
        node "port" "Port" ["port", "quay"] .location,
        node "town" "Old Town" ["town"] .location,
        node "mary" "Mary" ["Mary"] (.character [])]
    edges :=
      [⟨⟨"e1"⟩, ⟨"jack"⟩, ⟨"mary"⟩, .knows "rivals" "bold" "quick"⟩,
        ⟨⟨"e2"⟩, ⟨"town"⟩, ⟨"port"⟩, .adjacent⟩,
        ⟨⟨"e3"⟩, ⟨"brawl"⟩, ⟨"town"⟩, .spawn 0 (.ofList [("Tavern", 0.75)])⟩,
        ⟨⟨"e4"⟩, ⟨"mary"⟩, ⟨"port"⟩, .spawn 0.5 .empty⟩] }

theorem harbour_canonical : harbour.Canonical ({} : Config).graph := by
  have typed : harbour.Typed := by
    unfold Snapshot.Typed
    decide +kernel
  have chances : ∀ node ∈ harbour.nodes, ∀ timeFilter chance,
      node.kind = .event timeFilter false chance →
        chance = ({} : Config).graph.defaultGlobalSpawnChance := by
    intro node member timeFilter chance kind
    simp only [harbour, List.mem_cons, List.not_mem_nil, or_false] at member
    rcases member with rfl | rfl | rfl | rfl | rfl | rfl | rfl <;> cases kind
    rfl
  constructor
  case typed => exact typed
  case chances => exact chances
  all_goals decide +kernel

theorem harbour_renumbered :
    harbour.validate = .ok () ∧ harbour.nodes.length < ElementId.maxOrdinal ∧
      harbour.edges.length < ElementId.maxOrdinal ∧ harbour.Canonical ({} : Config).graph ∧
        ∃ outcome, importEntries {} harbour.entries = .ok outcome ∧
          outcome.report.findings = [] ∧ harbour.Renumbered harbour.renamed outcome.world := by
  have accepted : harbour.validate = .ok () := by decide +kernel
  have fewNodes : harbour.nodes.length < ElementId.maxOrdinal := by decide
  have fewEdges : harbour.edges.length < ElementId.maxOrdinal := by decide
  exact ⟨accepted, fewNodes, fewEdges, harbour_canonical,
    Snapshot.import_entries_renumbered {} accepted fewNodes fewEdges harbour_canonical⟩

end StoryWorld

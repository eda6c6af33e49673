import StoryWorld.Lore.Export
import StoryWorld.Proofs.Graph.Validity
import StoryWorld.Proofs.Table

/-!
# What entries say of edges

The entries of a world say what its edges say, seen from one end and with a keyword in place of the
other end. Where every edge joins two different nodes of the right kinds (`Snapshot.Typed`), this
can be told edge by edge: a location has the keywords of the ends opposite to it as triggers
(`mem_neighbours`), a spawn table holds the probabilities and overrides of the spawn edges
(`mem_spawns`), and an acquaintance is known from either end (`edgeAcquaintances_eq`).
-/

set_option autoImplicit false

namespace StoryWorld

/-! ## Connections -/

/-- Nodes of a kind that are joined with each other, by edges of a kind that has no direction. -/
inductive Mutual : NodeType → EdgeType → Prop where
  | adjacent : Mutual .location .adjacent
  | knows : Mutual .character .knows

theorem Mutual.of_connectionType {kind source target : NodeType} {type : EdgeType}
    (bond : Mutual kind type) (joined : connectionType source target = some type) :
    source = kind ∧ target = kind := by
  revert joined
  cases bond <;> cases source <;> cases target <;> decide

/-- Sublocations are not joined with each other. -/
theorem Mutual.ne_sublocation {kind : NodeType} {type : EdgeType} (bond : Mutual kind type) :
    kind ≠ .sublocation := by
  cases bond <;> exact NodeType.noConfusion

theorem connectionType_eq_spawn_iff {source target : NodeType} :
    connectionType source target = some .spawn ↔
      (source = .character ∨ source = .event) ∧ target = .location := by
  cases source <;> cases target <;> decide

/-- Sublocations are not joined with anything. -/
theorem ne_sublocation_of_connectionType {source target : NodeType} {type : EdgeType}
    (joined : connectionType source target = some type) :
    source ≠ .sublocation ∧ target ≠ .sublocation := by
  revert joined
  cases source <;> cases target <;> cases type <;> decide

/-- The overrides of a spawn edge; other edges have none. -/
def EdgeKind.overrides : EdgeKind → Table String Float
  | .spawn _ overrides => overrides
  | _ => .empty

/-- Only spawn edges have overrides. -/
theorem EdgeKind.overrides_of_type_ne {kind : EdgeKind} (other : kind.type ≠ .spawn) :
    kind.overrides = .empty := by
  cases kind with
  | spawn probability overrides => exact absurd rfl other
  | adjacent | knows => rfl

namespace Edge

theorem kind_of_spawn {edge : Edge} (own : edge.type = .spawn) :
    ∃ probability overrides, edge.kind = .spawn probability overrides := by
  unfold Edge.type at own
  cases kind : edge.kind with
  | spawn probability overrides => exact ⟨probability, overrides, rfl⟩
  | adjacent | knows =>
    rw [kind] at own
    cases own

theorem kind_of_adjacent {edge : Edge} (own : edge.type = .adjacent) : edge.kind = .adjacent := by
  unfold Edge.type at own
  cases kind : edge.kind with
  | adjacent => rfl
  | spawn | knows =>
    rw [kind] at own
    cases own

theorem kind_of_knows {edge : Edge} (own : edge.type = .knows) :
    ∃ relationship sourceThinks targetThinks,
      edge.kind = .knows relationship sourceThinks targetThinks := by
  unfold Edge.type at own
  cases kind : edge.kind with
  | knows relationship sourceThinks targetThinks =>
    exact ⟨relationship, sourceThinks, targetThinks, rfl⟩
  | spawn | adjacent =>
    rw [kind] at own
    cases own

/-- The end opposite to a node is the one that the edge joins it with. -/
theorem otherEnd_eq_some_iff {edge : Edge} {id other : ElementId}
    (differ : edge.source ≠ edge.target) :
    edge.otherEnd id = some other ↔ edge.joins id other = true := by
  unfold otherEnd joins
  by_cases fromHere : edge.source = id
  · subst fromHere
    simp only [if_true, Option.some.injEq, decide_eq_true_eq, true_and]
    constructor
    · exact Or.inl
    · rintro (same | ⟨-, same⟩)
      · exact same
      · exact absurd same.symm differ
  · by_cases toHere : edge.target = id
    · simp [fromHere, toHere]
    · simp [fromHere, toHere]

theorem joins_comm (edge : Edge) (a b : ElementId) : edge.joins a b = edge.joins b a :=
  decide_eq_decide.2 Or.comm

/-- What an acquaintance says from one of its ends. -/
def seenFrom (id : ElementId) (edge : Edge) : Acquaintance :=
  match edge.kind with
  | .knows relationship sourceThinks targetThinks =>
    ⟨relationship, if edge.source = id then sourceThinks else targetThinks⟩
  | _ => ⟨"", ""⟩

/-- The relationship is the same from either end. -/
theorem relationship_seenFrom (edge : Edge) (a b : ElementId) :
    (edge.seenFrom a).relationship = (edge.seenFrom b).relationship := by
  unfold seenFrom
  split <;> rfl

end Edge

namespace Snapshot

variable {world : Snapshot}

/-! ## Nodes and edges by kind -/

theorem mem_nodesOf {type : NodeType} {node : Node} :
    node ∈ world.nodesOf type ↔ node ∈ world.nodes ∧ node.type = type := by
  rw [nodesOf, List.mem_filter, decide_eq_true_eq]

theorem mem_edgesOf {type : EdgeType} {edge : Edge} :
    edge ∈ world.edgesOf type ↔ edge ∈ world.edges ∧ edge.type = type := by
  rw [edgesOf, List.mem_filter, decide_eq_true_eq]

theorem mem_sublocationsOf {id : ElementId} {node : Node} :
    node ∈ world.sublocationsOf id ↔ node ∈ world.nodes ∧ node.parent = some id := by
  rw [sublocationsOf, List.mem_filter, decide_eq_true_eq]

theorem Valid.keyword?_eq (valid : world.Valid) {node : Node} (member : node ∈ world.nodes) :
    world.keyword? node.id = node.firstKeyword := by
  rw [keyword?, lastNode?_of_mem valid.nodes_nodup member, Option.bind_some]

theorem Valid.keyword?_eq_some_iff (valid : world.Valid) {id : ElementId} {word : String} :
    world.keyword? id = some word ↔
      ∃ place ∈ world.nodes, place.id = id ∧ place.firstKeyword = some word := by
  constructor
  · intro known
    obtain ⟨place, found, known⟩ := Option.bind_eq_some_iff.1 known
    obtain ⟨member, own⟩ := lastNode?_eq_some found
    exact ⟨place, member, own, known⟩
  · rintro ⟨place, member, rfl, known⟩
    rw [valid.keyword?_eq member, known]

/-- Every edge joins nodes of the world by the kind of edge that may join them. -/
def Conforms (world : Snapshot) : Prop :=
  ∀ edge ∈ world.edges, ∃ source ∈ world.nodes, ∃ target ∈ world.nodes,
    source.id = edge.source ∧ target.id = edge.target ∧
      connectionType source.type target.type = some edge.type

/-- Both ends of an edge without direction are of the same kind. -/
theorem Conforms.mutual_ends (conforms : world.Conforms) {kind : NodeType} {type : EdgeType}
    (bond : Mutual kind type) {edge : Edge} (member : edge ∈ world.edgesOf type) :
    ∃ source ∈ world.nodesOf kind, ∃ target ∈ world.nodesOf kind,
      source.id = edge.source ∧ target.id = edge.target := by
  obtain ⟨inside, own⟩ := mem_edgesOf.1 member
  obtain ⟨source, sourceMember, target, targetMember, fromHere, toThere, joined⟩ :=
    conforms edge inside
  obtain ⟨sourceKind, targetKind⟩ := bond.of_connectionType (own ▸ joined)
  exact ⟨source, mem_nodesOf.2 ⟨sourceMember, sourceKind⟩, target,
    mem_nodesOf.2 ⟨targetMember, targetKind⟩, fromHere, toThere⟩

/-- A spawn edge leads from a character or an event to a location. -/
theorem Conforms.spawn_ends (conforms : world.Conforms) {edge : Edge}
    (member : edge ∈ world.edgesOf .spawn) :
    ∃ source ∈ world.nodes, ∃ target ∈ world.nodesOf .location,
      source.id = edge.source ∧ target.id = edge.target ∧
        (source.type = .character ∨ source.type = .event) := by
  obtain ⟨inside, own⟩ := mem_edgesOf.1 member
  obtain ⟨source, sourceMember, target, targetMember, fromHere, toThere, joined⟩ :=
    conforms edge inside
  obtain ⟨sourceKind, targetKind⟩ := connectionType_eq_spawn_iff.1 (own ▸ joined)
  exact ⟨source, sourceMember, target, mem_nodesOf.2 ⟨targetMember, targetKind⟩, fromHere,
    toThere, sourceKind⟩

/-- Every edge joins two different nodes of a world by the kind of edge that may join them. -/
def Typed (world : Snapshot) : Prop :=
  ∀ edge ∈ world.edges, ∃ source ∈ world.nodes, ∃ target ∈ world.nodes,
    source.id = edge.source ∧ target.id = edge.target ∧ edge.source ≠ edge.target ∧
      connectionType source.type target.type = some edge.type

/-- Every edge of a kind joins two different nodes of a kind. -/
def JoinsApart (world : Snapshot) (kind : NodeType) (type : EdgeType) : Prop :=
  ∀ edge ∈ world.edgesOf type, ∃ source ∈ world.nodesOf kind, ∃ target ∈ world.nodesOf kind,
    source.id = edge.source ∧ target.id = edge.target ∧ edge.source ≠ edge.target

section Typed

variable (typed : world.Typed)

include typed

theorem Typed.conforms : world.Conforms := by
  intro edge member
  obtain ⟨source, sourceMember, target, targetMember, fromHere, toThere, -, joined⟩ :=
    typed edge member
  exact ⟨source, sourceMember, target, targetMember, fromHere, toThere, joined⟩

/-- Edges without direction join different nodes of one kind. -/
theorem Typed.joinsApart {kind : NodeType} {type : EdgeType} (bond : Mutual kind type) :
    world.JoinsApart kind type := by
  intro edge member
  obtain ⟨source, sourceMember, target, targetMember, fromHere, toThere⟩ :=
    typed.conforms.mutual_ends bond member
  obtain ⟨-, -, -, -, -, -, differ, -⟩ := typed edge (mem_edgesOf.1 member).1
  exact ⟨source, sourceMember, target, targetMember, fromHere, toThere, differ⟩

/-- A spawn edge leads from a character or an event to a location. -/
theorem Typed.spawn_ends {edge : Edge} (member : edge ∈ world.edgesOf .spawn) :
    ∃ source ∈ world.nodes, ∃ target ∈ world.nodesOf .location,
      source.id = edge.source ∧ target.id = edge.target ∧
        (source.type = .character ∨ source.type = .event) :=
  typed.conforms.spawn_ends member

end Typed

/-! ## Ends of edges -/

/-- Some edge of a kind joins two nodes, in either direction. -/
def Joined (world : Snapshot) (type : EdgeType) (a b : ElementId) : Prop :=
  ∃ edge ∈ world.edgesOf type, edge.joins a b = true

theorem Joined.symm {type : EdgeType} {a b : ElementId} (joined : world.Joined type a b) :
    world.Joined type b a := by
  obtain ⟨edge, member, ends⟩ := joined
  exact ⟨edge, member, edge.joins_comm a b ▸ ends⟩

theorem mem_neighbours {id other : ElementId} :
    other ∈ world.neighbours id ↔ world.Joined .adjacent id other := by
  simp only [neighbours, List.mem_append, List.mem_map, List.mem_filter, decide_eq_true_eq, Joined,
    Edge.joins]
  constructor
  · rintro (⟨edge, ⟨member, fromHere⟩, rfl⟩ | ⟨edge, ⟨member, toHere⟩, rfl⟩)
    · exact ⟨edge, member, Or.inl ⟨fromHere, rfl⟩⟩
    · exact ⟨edge, member, Or.inr ⟨rfl, toHere⟩⟩
  · rintro ⟨edge, member, ⟨fromHere, rfl⟩ | ⟨rfl, toHere⟩⟩
    · exact Or.inl ⟨edge, ⟨member, fromHere⟩, rfl⟩
    · exact Or.inr ⟨edge, ⟨member, toHere⟩, rfl⟩

/-- What a spawn edge says about places is its probability under the keyword of its target, and each
of its overrides that is greater than zero. -/
theorem mem_edgeSpawns {edge : Edge} {spawn : String × Float} :
    spawn ∈ world.edgeSpawns edge ↔
      (∃ overrides, edge.kind = .spawn spawn.2 overrides ∧
          world.keyword? edge.target = some spawn.1) ∨
        spawn ∈ edge.kind.overrides.entries ∧ 0 < spawn.2 := by
  unfold edgeSpawns EdgeKind.overrides
  cases kind : edge.kind with
  | spawn probability overrides =>
    simp only [List.mem_append, List.mem_map, Option.mem_toList, List.mem_filter,
      decide_eq_true_eq, EdgeKind.spawn.injEq]
    refine or_congr ⟨?_, ?_⟩ Iff.rfl
    · rintro ⟨key, known, rfl⟩
      exact ⟨overrides, ⟨rfl, rfl⟩, known⟩
    · rintro ⟨_, ⟨rfl, -⟩, known⟩
      exact ⟨spawn.1, known, rfl⟩
  | adjacent => simp [Table.empty]
  | knows relationship sourceThinks targetThinks => simp [Table.empty]

/-- A spawn edge says its probability under the keyword of its target. -/
theorem exists_said_of_keyword? {edge : Edge} (member : edge ∈ world.edgesOf .spawn) {key : String}
    (known : world.keyword? edge.target = some key) :
    ∃ probability overrides, edge.kind = .spawn probability overrides ∧
      (key, probability) ∈ world.edgeSpawns edge := by
  obtain ⟨probability, overrides, kind⟩ := Edge.kind_of_spawn (mem_edgesOf.1 member).2
  exact ⟨probability, overrides, kind, mem_edgeSpawns.2 (Or.inl ⟨overrides, kind, known⟩)⟩

/-- A spawn table is bound from what the spawn edges of its node say. -/
theorem mem_spawns {id : ElementId} {spawn : String × Float} :
    spawn ∈ world.spawns id ↔
      ∃ edge ∈ world.edgesOf .spawn, edge.source = id ∧ spawn ∈ world.edgeSpawns edge := by
  simp only [spawns, List.mem_flatMap, List.mem_filter, decide_eq_true_eq, and_assoc]

/-- An acquaintance between different nodes is known at either end, under the keyword of the other
one. -/
theorem edgeAcquaintances_eq {edge : Edge} (own : edge.type = .knows)
    (differ : edge.source ≠ edge.target) (id : ElementId) :
    world.edgeAcquaintances id edge =
      (((edge.otherEnd id).bind world.keyword?).map fun key => (key, edge.seenFrom id)).toList := by
  unfold edgeAcquaintances Edge.otherEnd Edge.seenFrom
  cases kind : edge.kind with
  | spawn probability overrides => simp [Edge.type, kind, EdgeKind.type] at own
  | adjacent => simp [Edge.type, kind, EdgeKind.type] at own
  | knows relationship sourceThinks targetThinks =>
    by_cases fromHere : edge.source = id
    · have notTo : ¬ edge.target = id := fun toHere => differ (fromHere.trans toHere.symm)
      cases known : world.keyword? edge.target <;> simp [fromHere, notTo, known]
    · by_cases toHere : edge.target = id
      · cases known : world.keyword? edge.source <;> simp [fromHere, toHere, known]
      · simp [fromHere, toHere]

/-- A table that is left out where it is empty is found again as it was. -/
theorem getD_nonempty? {α : Type} (table : Table String α) :
    (nonempty? table).getD .empty = table := by
  unfold nonempty?
  split
  · rename_i none
    exact Table.ext_entries (List.isEmpty_iff.1 none).symm
  · rfl

/-- The entry of a location lists its sublocations by name. -/
theorem mem_sublocationNames_locationEntry {place : Node} {name : String} :
    name ∈ (world.locationEntry place).sublocationNames ↔
      ∃ room ∈ world.sublocationsOf place.id, room.name = name := by
  have names : (world.locationEntry place).sublocationNames =
      (world.sublocationTable place.id).keys := by
    rw [Entry.sublocationNames, locationEntry, getD_nonempty?]
  rw [names, sublocationTable, Table.mem_keys_ofList, List.map_map]
  exact List.mem_map

/-! ## Mentioned nodes -/

/-- A node is only joined with other nodes, of the kind that the edges are between. -/
theorem JoinsApart.other_end {kind : NodeType} {type : EdgeType}
    (apart : world.JoinsApart kind type) {id other : ElementId}
    (joined : world.Joined type id other) :
    ∃ node ∈ world.nodesOf kind, node.id = other ∧ id ≠ other := by
  obtain ⟨edge, member, ends⟩ := joined
  obtain ⟨source, sourceMember, target, targetMember, fromHere, toThere, differ⟩ :=
    apart edge member
  rcases of_decide_eq_true ends with ⟨rfl, rfl⟩ | ⟨rfl, rfl⟩
  · exact ⟨target, targetMember, toThere, differ⟩
  · exact ⟨source, sourceMember, fromHere, differ.symm⟩

/-- The key is the first keyword of a node that is joined with the given one by edges of a kind
without direction. -/
def Mentions (world : Snapshot) (kind : NodeType) (type : EdgeType) (id : ElementId)
    (key : String) : Prop :=
  ∃ other ∈ world.nodesOf kind, world.Joined type id other.id ∧ other.firstKeyword = some key

section Mentions

variable (valid : world.Valid)

include valid

/-- The keywords at the other ends are those of the nodes that are joined. -/
theorem JoinsApart.mentions_iff {kind : NodeType} {type : EdgeType}
    (apart : world.JoinsApart kind type) {id : ElementId} {key : String} :
    world.Mentions kind type id key ↔
      ∃ other, world.Joined type id other ∧ world.keyword? other = some key := by
  constructor
  · rintro ⟨other, member, joined, known⟩
    exact ⟨other.id, joined, (valid.keyword?_eq (mem_nodesOf.1 member).1).trans known⟩
  · rintro ⟨other, joined, known⟩
    obtain ⟨node, member, rfl, -⟩ := apart.other_end joined
    exact ⟨node, member, joined, (valid.keyword?_eq (mem_nodesOf.1 member).1).symm.trans known⟩

/-- A character knows others under their first keywords. -/
theorem JoinsApart.mem_keys_acquaintances (apart : world.JoinsApart .character .knows)
    {id : ElementId} {key : String} :
    key ∈ (world.acquaintances id).map Prod.fst ↔ world.Mentions .character .knows id key := by
  rw [apart.mentions_iff valid, acquaintances, List.map_flatMap, List.mem_flatMap]
  constructor
  · rintro ⟨edge, member, inside⟩
    obtain ⟨-, -, -, -, -, -, differ⟩ := apart edge member
    rw [edgeAcquaintances_eq (mem_edgesOf.1 member).2 differ] at inside
    obtain ⟨known, listed, rfl⟩ := List.mem_map.1 inside
    obtain ⟨keyword, found, rfl⟩ := Option.map_eq_some_iff.1 (Option.mem_toList.1 listed)
    obtain ⟨other, opposite, keyed⟩ := Option.bind_eq_some_iff.1 found
    exact ⟨other, ⟨edge, member, (Edge.otherEnd_eq_some_iff differ).1 opposite⟩, keyed⟩
  · rintro ⟨other, ⟨edge, member, joins⟩, keyed⟩
    obtain ⟨-, -, -, -, -, -, differ⟩ := apart edge member
    refine ⟨edge, member, List.mem_map.2 ⟨(key, edge.seenFrom id), ?_, rfl⟩⟩
    rw [edgeAcquaintances_eq (mem_edgesOf.1 member).2 differ,
      (Edge.otherEnd_eq_some_iff differ).2 joins, Option.bind_some, keyed]
    exact List.mem_singleton.2 rfl

variable (typed : world.Typed)

include typed

/-- The triggers of a location are the first keywords of the locations adjacent to it. -/
theorem Typed.mem_triggers_locationEntry {node : Node} {key : String} :
    key ∈ (world.locationEntry node).triggers ↔
      world.Mentions .location .adjacent node.id key := by
  rw [(typed.joinsApart .adjacent).mentions_iff valid]
  simp only [locationEntry, mem_distinct, List.mem_filterMap, mem_neighbours]

/-- The triggers of a character are the first keywords of the characters that it knows. -/
theorem Typed.mem_triggers_characterEntry {node : Node} {key : String} :
    key ∈ (world.characterEntry node).triggers ↔
      world.Mentions .character .knows node.id key := by
  rw [← (typed.joinsApart .knows).mem_keys_acquaintances valid]
  exact mem_distinct

end Mentions

end Snapshot

end StoryWorld

import StoryWorld.Proofs.Lore.EdgeCopies
import StoryWorld.Proofs.Lore.WellFormedImport

/-!
# Edges of an imported world

The entries of an unambiguous world are imported. The world that comes out is valid and keeps to the
rules of connection. Copies of locations or of characters are joined in it just if their nodes are
and one of the two has a keyword (`Reimport.joined_copy_iff`), and its spawn edges are those of the
spawn tables (`Reimport.mem_spawnEdges_iff`).

Every edge that comes back follows one of the world (`Edge.Follows`), and no two of them the same
one. So there are enough ordinals for all elements, and the import succeeds (`Reimport.finish_eq`).
-/

set_option autoImplicit false

namespace StoryWorld

/-- What is mentioned by entries, as links of a kind without direction. -/
def Draft.mentionLinks (config : Config) (total : Nat) (items : List (Nat × Entry))
    (last : Draft) : EdgeType → List Link
  | .spawn => []
  | .adjacent => linked (last.triggerReferences config total items)
  | .knows => linked (last.knowsReferences config total items)

/-- Mentions are links of their kind. -/
theorem Draft.type_of_mem_mentionLinks {config : Config} {total : Nat}
    {items : List (Nat × Entry)} {last : Draft} {kind : NodeType} {type : EdgeType}
    (bond : Mutual kind type) {link : Link}
    (member : link ∈ last.mentionLinks config total items type) : link.kind.type = type := by
  cases bond with
  | adjacent => exact type_of_mem_adjacencyReferences (mem_linked.1 member)
  | knows => exact type_of_mem_acquaintanceReferences (mem_linked.1 member)

/-- The mentions that come first are links of their kind, too. -/
theorem Draft.type_of_mem_linksOnce {config : Config} {total : Nat} {items : List (Nat × Entry)}
    {last : Draft} {kind : NodeType} {type : EdgeType} (bond : Mutual kind type) {link : Link}
    (member : link ∈ linksOnce [] (last.mentionLinks config total items type)) :
    link.kind.type = type :=
  type_of_mem_mentionLinks bond ((linksOnce_sublist _ _).subset member)

/-- The links of a kind without direction are the mentions that come first. -/
theorem Draft.mem_links_iff {config : Config} {total : Nat} {items : List (Nat × Entry)}
    {last : Draft} {kind : NodeType} {type : EdgeType} (bond : Mutual kind type) {link : Link} :
    link ∈ last.links config total items ∧ link.kind.type = type ↔
      link ∈ linksOnce [] (last.mentionLinks config total items type) := by
  constructor
  · rintro ⟨member, typed⟩
    rcases List.mem_append.1 member with member | knows
    · rcases List.mem_append.1 member with spawns | borders
      · obtain ⟨placed, -, inside⟩ := List.mem_flatMap.1 spawns
        rw [type_of_mem_spawnLinks inside] at typed
        cases bond <;> cases typed
      · have isAdjacent := type_of_mem_linksOnce .adjacent borders
        rw [isAdjacent] at typed
        cases bond with
        | adjacent => exact borders
        | knows => cases typed
    · have isKnown := type_of_mem_linksOnce .knows knows
      rw [isKnown] at typed
      cases bond with
      | adjacent => cases typed
      | knows => exact knows
  · intro member
    refine ⟨?_, type_of_mem_linksOnce bond member⟩
    cases bond with
    | adjacent => exact List.mem_append_left _ (List.mem_append_right _ member)
    | knows => exact List.mem_append_right _ member

/-- The edges of an imported world keep to the rules of connection. -/
theorem Draft.Assembled.typed_outcome {config : Config} {total : Nat} {items : List (Nat × Entry)}
    {last : Draft} {findings : List Finding} (whole : Assembled config total items last findings) :
    last.outcome.world.Typed := by
  intro edge member
  obtain ⟨source, inside, target, insideToo, fromHere, toThere, allowed⟩ :=
    whole.admits (whole.link_mem member)
  obtain ⟨differ, joined, -⟩ := validateConnection_eq_ok_iff.1 allowed
  rw [fromHere, toThere] at differ
  exact ⟨source, inside, target, insideToo, fromHere, toThere, differ, joined⟩

/-- Copies of locations and characters are known by the same keyword. -/
theorem Node.CarriedTo.firstKeyword_of_mutual {settings : GraphSettings}
    {rename : ElementId → ElementId} {node copy : Node}
    (carried : node.CarriedTo settings rename copy) {world : Snapshot} {kind : NodeType}
    {type : EdgeType} (bond : Mutual kind type)
    (member : node ∈ world.nodesOf kind) : copy.firstKeyword = node.firstKeyword := by
  refine carried.firstKeyword_eq ?_
  rw [(Snapshot.mem_nodesOf.1 member).2]
  exact bond.ne_sublocation

/-- An edge follows another one of its kind when it joins the copies of its ends, in the same
direction if it is a spawn edge. -/
structure Edge.Follows (rename : ElementId → ElementId) (edge copy : Edge) : Prop where
  type : copy.type = edge.type
  ends : copy.link.Joins (rename edge.source) (rename edge.target)
  spawn : edge.type = .spawn → copy.source = rename edge.source ∧ copy.target = rename edge.target

/-- Edges that say different things do not follow the same one. -/
theorem Edge.Follows.not_of_apart {rename : ElementId → ElementId} {edge first second : Edge}
    (follows : edge.Follows rename first) (apart : first.link.Apart second.link) :
    ¬ edge.Follows rename second := by
  intro also
  have typed : first.type = second.type := follows.type.trans also.type.symm
  obtain ⟨directed, undirected⟩ := apart typed
  by_cases spawn : edge.type = .spawn
  · have here := follows.spawn spawn
    have there := also.spawn spawn
    exact directed ⟨here.1.trans there.1.symm, here.2.trans there.2.symm⟩
  · refine undirected (fun same => spawn (follows.type.symm.trans same)) ?_
    have joins := follows.ends
    rcases also.ends with ⟨fromHere, toThere⟩ | ⟨fromThere, toHere⟩
    · rwa [fromHere, toThere]
    · rw [fromThere, toHere]
      exact joins.symm

namespace Snapshot

namespace Reimport

variable {world : Snapshot} {config : Config} {last : Draft} (again : world.Reimport config last)

include again

/-! ## The imported world -/

theorem valid_copy : last.outcome.world.Valid := again.whole.valid_snapshot

theorem typed_copy : last.outcome.world.Typed := again.whole.typed_outcome

/-- The copies of the nodes of a kind are the nodes of that kind. -/
theorem exists_copyOf {type : NodeType} {node : Node} (member : node ∈ world.nodesOf type) :
    ∃ copy ∈ last.outcome.world.nodesOf type,
      node.CarriedTo config.graph world.renamed copy := by
  obtain ⟨inside, typed⟩ := mem_nodesOf.1 member
  obtain ⟨copy, isCopy, carried⟩ := again.exists_copy inside
  exact ⟨copy, mem_nodesOf.2 ⟨isCopy, carried.type_eq.trans typed⟩, carried⟩

theorem exists_nodeOf {type : NodeType} {copy : Node}
    (member : copy ∈ last.outcome.world.nodesOf type) :
    ∃ node ∈ world.nodesOf type, node.CarriedTo config.graph world.renamed copy := by
  obtain ⟨inside, typed⟩ := mem_nodesOf.1 member
  obtain ⟨node, isNode, carried⟩ := again.exists_node inside
  exact ⟨node, mem_nodesOf.2 ⟨isNode, carried.type_eq.symm.trans typed⟩, carried⟩

/-- Copies are known by the keywords of their nodes. -/
theorem keyword?_copy {node : Node} (member : node ∈ world.nodes)
    (other : node.type ≠ .sublocation) :
    last.outcome.world.keyword? (world.renamed node.id) = node.firstKeyword := by
  obtain ⟨copy, isCopy, carried⟩ := again.exists_copy member
  rw [← carried.id_eq, again.valid_copy.keyword?_eq isCopy, Node.firstKeyword,
    carried.keywords_eq other]
  rfl

/-! ## Edges without direction -/

/-- Every link is that of an edge of its kind. -/
theorem exists_edge_of_link {link : Link}
    (member : link ∈ last.links config world.entries.length world.items) :
    ∃ edge ∈ last.outcome.world.edgesOf link.kind.type, edge.link = link := by
  obtain ⟨edge, inside, rfl⟩ := again.whole.exists_edge_of_link member
  exact ⟨edge, mem_edgesOf.2 ⟨inside, rfl⟩, rfl⟩

/-- A mention links the copies of nodes that are joined, the second of which has a keyword. -/
theorem stem_of_mention {kind : NodeType} {type : EdgeType} (bond : Mutual kind type) {link : Link}
    (member : link ∈ last.mentionLinks config world.entries.length world.items type) :
    ∃ first ∈ world.nodesOf kind, ∃ second ∈ world.nodesOf kind,
      world.Joined type first.id second.id ∧ second.firstKeyword ≠ none ∧
        link.source = world.renamed first.id ∧ link.target = world.renamed second.id ∧
          link.kind.type = type := by
  cases bond with
  | adjacent =>
    obtain ⟨first, isFirst, second, isSecond, joined, keyed, rfl⟩ :=
      again.mem_triggerLinks_iff.1 member
    exact ⟨first, isFirst, second, isSecond, joined, keyed, rfl, rfl, rfl⟩
  | knows =>
    obtain ⟨first, isFirst, second, isSecond, keyed, edge, between, rfl⟩ :=
      again.mem_knowsLinks_iff.1 member
    have joined := isSome_lastAcquaintance?_iff.1 (by rw [between]; rfl)
    exact ⟨first, isFirst, second, isSecond, joined, keyed, rfl, rfl, rfl⟩

theorem exists_mention {kind : NodeType} {type : EdgeType} (bond : Mutual kind type)
    {first second : Node} (isFirst : first ∈ world.nodesOf kind)
    (isSecond : second ∈ world.nodesOf kind) (joined : world.Joined type first.id second.id)
    (keyed : second.firstKeyword ≠ none) :
    ∃ link ∈ last.mentionLinks config world.entries.length world.items type,
      link.source = world.renamed first.id ∧ link.target = world.renamed second.id := by
  cases bond with
  | adjacent =>
    exact ⟨_, again.mem_triggerLinks_iff.2 ⟨first, isFirst, second, isSecond, joined, keyed, rfl⟩,
      rfl, rfl⟩
  | knows =>
    obtain ⟨edge, between⟩ := Option.isSome_iff_exists.1 (isSome_lastAcquaintance?_iff.2 joined)
    exact ⟨_, again.mem_knowsLinks_iff.2
      ⟨first, isFirst, second, isSecond, keyed, edge, between, rfl⟩, rfl, rfl⟩

/-- An edge of the imported world joins the copies of two nodes that are joined, the second of which
has a keyword. -/
theorem stem_of_edge {kind : NodeType} {type : EdgeType} (bond : Mutual kind type) {edge : Edge}
    (member : edge ∈ last.outcome.world.edgesOf type) :
    ∃ first ∈ world.nodesOf kind, ∃ second ∈ world.nodesOf kind,
      world.Joined type first.id second.id ∧ second.firstKeyword ≠ none ∧
        edge.source = world.renamed first.id ∧ edge.target = world.renamed second.id := by
  obtain ⟨inside, typed⟩ := mem_edgesOf.1 member
  have once := (Draft.mem_links_iff bond).1 ⟨again.whole.link_mem inside, typed⟩
  obtain ⟨first, isFirst, second, isSecond, joined, keyed, fromHere, toThere, -⟩ :=
    again.stem_of_mention bond ((linksOnce_sublist _ _).subset once)
  exact ⟨first, isFirst, second, isSecond, joined, keyed, fromHere, toThere⟩

/-- Nodes of one kind are told by the identities of their copies. -/
theorem eq_of_renamed {kind : NodeType} {first second : Node} (isFirst : first ∈ world.nodesOf kind)
    (isSecond : second ∈ world.nodesOf kind)
    (same : world.renamed first.id = world.renamed second.id) : first = second :=
  again.valid.renamed_inj (mem_nodesOf.1 isFirst).1 (mem_nodesOf.1 isSecond).1 same

/-- The copies of nodes that are joined are joined, if one of them mentions the other. -/
theorem joined_copy {kind : NodeType} {type : EdgeType} (bond : Mutual kind type)
    {first second : Node} (isFirst : first ∈ world.nodesOf kind)
    (isSecond : second ∈ world.nodesOf kind) (joined : world.Joined type first.id second.id)
    (keyed : second.firstKeyword ≠ none) :
    last.outcome.world.Joined type (world.renamed first.id) (world.renamed second.id) := by
  obtain ⟨link, mentioned, fromHere, toThere⟩ :=
    again.exists_mention bond isFirst isSecond joined keyed
  have differ : link.target ≠ link.source := by
    obtain ⟨-, -, -, apart⟩ := (again.typed.joinsApart bond).other_end joined
    rw [fromHere, toThere]
    intro same
    rw [again.eq_of_renamed isSecond isFirst same] at apart
    exact apart rfl
  obtain ⟨one, once, joins⟩ := joined_of_mem [] mentioned differ
  obtain ⟨member, typed⟩ := (Draft.mem_links_iff bond).2 once
  obtain ⟨edge, inside, rfl⟩ := again.exists_edge_of_link member
  rw [fromHere, toThere] at joins
  exact ⟨edge, typed ▸ inside, decide_eq_true joins⟩

/-- Copies are joined just if their nodes are and one of the two has a keyword. -/
theorem joined_copy_iff {kind : NodeType} {type : EdgeType} (bond : Mutual kind type)
    {first second : Node} (isFirst : first ∈ world.nodesOf kind)
    (isSecond : second ∈ world.nodesOf kind) :
    last.outcome.world.Joined type (world.renamed first.id) (world.renamed second.id) ↔
      world.Joined type first.id second.id ∧
        (first.firstKeyword ≠ none ∨ second.firstKeyword ≠ none) := by
  constructor
  · rintro ⟨edge, member, joins⟩
    obtain ⟨one, isOne, other, isOther, joined, keyed, fromHere, toThere⟩ :=
      again.stem_of_edge bond member
    have ends := of_decide_eq_true joins
    rw [fromHere, toThere] at ends
    rcases ends with ⟨here, there⟩ | ⟨there, here⟩
    · rw [again.eq_of_renamed isOne isFirst here, again.eq_of_renamed isOther isSecond there]
        at joined
      rw [again.eq_of_renamed isOther isSecond there] at keyed
      exact ⟨joined, Or.inr keyed⟩
    · rw [again.eq_of_renamed isOne isSecond there, again.eq_of_renamed isOther isFirst here]
        at joined
      rw [again.eq_of_renamed isOther isFirst here] at keyed
      exact ⟨joined.symm, Or.inl keyed⟩
  · rintro ⟨joined, keyed | keyed⟩
    · exact (again.joined_copy bond isSecond isFirst joined.symm keyed).symm
    · exact again.joined_copy bond isFirst isSecond joined keyed

/-! ## Spawn edges -/

/-- The spawn edges of the imported world are those of the spawn tables. -/
theorem mem_spawnEdges_iff {link : Link} :
    (∃ copy ∈ last.outcome.world.edgesOf .spawn, copy.link = link) ↔
      link ∈ (castPlacements config world.entries.length world.items).flatMap
        (Placement.spawnLinks config.graph last) := by
  constructor
  · rintro ⟨copy, isCopy, rfl⟩
    obtain ⟨inside, typed⟩ := mem_edgesOf.1 isCopy
    have kinds : copy.link.kind.type = .spawn := typed
    rcases List.mem_append.1 (again.whole.link_mem inside) with member | knows
    · rcases List.mem_append.1 member with spawns | borders
      · exact spawns
      · rw [((Draft.mem_links_iff .adjacent).2 borders).2] at kinds
        cases kinds
    · rw [((Draft.mem_links_iff .knows).2 knows).2] at kinds
      cases kinds
  · intro member
    have typed : link.kind.type = .spawn := by
      obtain ⟨placed, -, inside⟩ := List.mem_flatMap.1 member
      exact Draft.type_of_mem_spawnLinks inside
    have inside : link ∈ last.links config world.entries.length world.items :=
      List.mem_append_left _ (List.mem_append_left _ member)
    rw [← typed]
    exact again.exists_edge_of_link inside

/-- Every spawn edge of the imported world is what becomes of a spawn edge. -/
theorem stem_of_spawnEdge {copy : Edge} (isCopy : copy ∈ last.outcome.world.edgesOf .spawn) :
    ∃ edge ∈ world.edgesOf .spawn, world.SpawnCopy config.graph edge copy.link :=
  again.stem_of_spawnLink (again.mem_spawnEdges_iff.1 ⟨copy, isCopy, rfl⟩)

/-- A spawn edge that says anything comes back as an edge. -/
theorem exists_spawnEdge {node : Node} (isCast : node ∈ world.castNodes)
    (bound : node.isGlobalEvent = false) {edge : Edge} (member : edge ∈ world.edgesOf .spawn)
    (fromHere : edge.source = node.id) (something : world.edgeSpawns edge ≠ []) :
    ∃ copy ∈ last.outcome.world.edgesOf .spawn, world.SpawnCopy config.graph edge copy.link := by
  obtain ⟨link, listed, copies⟩ := again.exists_spawnLink isCast bound member fromHere something
  obtain ⟨copy, isCopy, rfl⟩ := again.mem_spawnEdges_iff.2 listed
  exact ⟨copy, isCopy, copies⟩

/-! ## Edges that come back -/

theorem follows_of_mutual {kind : NodeType} {type : EdgeType} (bond : Mutual kind type)
    {copy : Edge} (member : copy ∈ last.outcome.world.edgesOf type) :
    ∃ edge ∈ world.edges, edge.Follows world.renamed copy := by
  obtain ⟨first, -, second, -, ⟨edge, inside, joins⟩, -, fromHere, toThere⟩ :=
    again.stem_of_edge bond member
  obtain ⟨isEdge, typed⟩ := mem_edgesOf.1 inside
  refine ⟨edge, isEdge, (mem_edgesOf.1 member).2.trans typed.symm, ?_, ?_⟩
  · rcases of_decide_eq_true joins with ⟨here, there⟩ | ⟨there, here⟩
    · rw [here, there]
      exact Or.inl ⟨fromHere, toThere⟩
    · rw [here, there]
      exact Or.inr ⟨fromHere, toThere⟩
  · rw [typed]
    cases bond <;> exact EdgeType.noConfusion

/-- Every edge that comes back follows one of the world. -/
theorem exists_followed {copy : Edge} (member : copy ∈ last.edges) :
    ∃ edge ∈ world.edges, edge.Follows world.renamed copy := by
  have typed : copy ∈ last.outcome.world.edgesOf copy.type := mem_edgesOf.2 ⟨member, rfl⟩
  cases own : copy.type with
  | adjacent => exact again.follows_of_mutual .adjacent (own ▸ typed)
  | knows => exact again.follows_of_mutual .knows (own ▸ typed)
  | spawn =>
    obtain ⟨edge, inside, copies⟩ := again.stem_of_spawnEdge (own ▸ typed)
    obtain ⟨isEdge, isSpawn⟩ := mem_edgesOf.1 inside
    exact ⟨edge, isEdge, own.trans isSpawn.symm, Or.inl ⟨copies.source, copies.target⟩,
      fun _ => ⟨copies.source, copies.target⟩⟩

/-- The edges that come back follow different ones. -/
theorem exists_subperm_follows : ∃ followed : List Edge, followed.Subperm world.edges ∧
    List.Forall₂ (Edge.Follows world.renamed) followed last.edges := by
  refine exists_subperm_forall₂ (fun copy member => again.exists_followed member) ?_
  exact again.whole.pairwise_apart_edges.imp fun apart _ follows => follows.not_of_apart apart

theorem length_nodes : last.nodes.length = world.nodes.length :=
  again.copied.length_eq.symm.trans again.valid.importOrder_perm.length_eq

theorem length_edges_le : last.edges.length ≤ world.edges.length := by
  obtain ⟨followed, among, each⟩ := again.exists_subperm_follows
  rw [← each.length_eq]
  exact among.length_le

theorem findings_eq_nil : last.findings = [] := by
  rw [again.whole.findings, again.remarks_eq_nil]
  rfl

theorem finish_eq (fewNodes : world.nodes.length < ElementId.maxOrdinal)
    (fewEdges : world.edges.length < ElementId.maxOrdinal) : last.finish = .ok last.outcome := by
  refine Draft.finish_of_le ?_ (Nat.le_trans again.length_edges_le (Nat.le_of_lt fewEdges))
  rw [again.length_nodes]
  exact Nat.le_of_lt fewNodes

end Reimport

end Snapshot

end StoryWorld

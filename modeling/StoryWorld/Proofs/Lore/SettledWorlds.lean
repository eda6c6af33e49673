import StoryWorld.Proofs.Lore.FirstMentions
import StoryWorld.Proofs.Lore.Renumbering
import StoryWorld.Proofs.Lore.Verdict

/-!
# Worlds that come back as they are

A world is settled when an import of its entries has nothing left to put in order
(`Snapshot.Settled`). Its nodes stand in import order and say nothing that entries cannot say; its
edges stand kind by kind, and within a kind in the order of the nodes that they lead from. A spawn
edge says something under some key. An edge without direction leads to a node with a keyword, so
that its source mentions its target; if the target mentions the source too, the source comes first
in the order, and the edge is again made from there.

Following the spawn table of a node makes its spawn edges again, one after another
(`Settled.spawnLinks_eq`), and following what nodes mention makes the edges without direction again
(`Settled.linksOnce_mentionLinks`). So a settled world comes back as it is, except for where its
nodes stand on the canvas (`Settled.nodes_alike`, `Settled.edges_eq`), and it is exported to the
same entries (`Settled.entries_eq`).
-/

set_option autoImplicit false

namespace StoryWorld

/-- What a spawn edge says: its probability and its overrides. -/
def EdgeKind.chances : EdgeKind → Float × Table String Float
  | .spawn probability overrides => (probability, overrides)
  | _ => (0, .empty)

namespace Snapshot

/-- The edges come in the order of the nodes that they lead from. -/
def Grouped (nodes : List Node) (edges : List Edge) : Prop :=
  (nodes.flatMap fun node => edges.filter fun edge => decide (edge.source = node.id)) = edges

/-- A spawn edge says something, and nothing that entries cannot say. -/
structure Spoken (world : Snapshot) (settings : GraphSettings) (edge : Edge) : Prop where
  speaks : world.edgeSpawns edge ≠ []
  positive : ∀ override ∈ edge.kind.overrides.entries, 0 < override.2
  standard : world.keyword? edge.target = none →
    edge.kind.chances.1 = settings.defaultSpawnProbability

/-- The edges of a kind without direction are those that their sources are the first to mention. -/
structure Arranged (world : Snapshot) (kind : NodeType) (type : EdgeType) : Prop where
  grouped : Grouped (world.nodesOf kind) (world.edgesOf type)
  keyed : ∀ edge ∈ world.edgesOf type, world.keyword? edge.target ≠ none
  /-- What a node mentions that mentions it, too, comes later. -/
  earlier : ∀ before node after, world.nodesOf kind = before ++ node :: after →
    ∀ edge ∈ world.edgesOf type, edge.target = node.id → world.keyword? edge.source ≠ none →
      ∃ first ∈ before, first.id = edge.source

/-- Worlds in which an import has nothing left to put in order. -/
structure Settled (settings : GraphSettings) (world : Snapshot) : Prop where
  plain : ∀ node ∈ world.nodes, node.Plain settings
  ordered : world.importOrder = world.nodes
  numbered : world.InOrder
  sorted : world.edges = world.edgesOf .spawn ++ world.edgesOf .adjacent ++ world.edgesOf .knows
  simple : world.Simple
  spawns : Grouped world.castNodes (world.edgesOf .spawn)
  spoken : ∀ edge ∈ world.edgesOf .spawn, world.Spoken settings edge
  /-- Global events have no spawn edges. -/
  bound : ∀ node ∈ world.nodes, node.isGlobalEvent = true →
    ∀ edge ∈ world.edgesOf .spawn, edge.source ≠ node.id
  arranged : ∀ {kind : NodeType} {type : EdgeType}, Mutual kind type → world.Arranged kind type
  /-- Nobody's thoughts stand under a keyword that is not there. -/
  unheard : ∀ edge ∈ world.edgesOf .knows, world.keyword? edge.source = none →
    (edge.seenFrom edge.target).thoughts = ""

variable {world : Snapshot} {config : Config} {last : Draft}

/-! ## Spawn tables -/

/-- A spawn edge says its probability, if its target has a keyword, and all its overrides. -/
theorem Spoken.edgeSpawns_eq {settings : GraphSettings} {edge : Edge}
    (spoken : world.Spoken settings edge) {probability : Float} {overrides : Table String Float}
    (kind : edge.kind = .spawn probability overrides) :
    world.edgeSpawns edge =
      ((world.keyword? edge.target).toList.map fun key => (key, probability)) ++
        overrides.entries := by
  have positive := spoken.positive
  rw [kind, EdgeKind.overrides] at positive
  simp only [edgeSpawns, kind]
  congr 1
  exact List.filter_eq_self.2 fun entry listed => decide_eq_true (positive entry listed)

section Following

variable (again : world.Reimport config last)

include again

/-- An override of a spawn edge leads to a sublocation of its target. -/
theorem Reimport.names_of_override {edge : Edge} (member : edge ∈ world.edgesOf .spawn)
    {override : String × Float} (listed : override ∈ edge.kind.overrides.entries)
    (positive : 0 < override.2) :
    last.namedLocation? override.1 = none ∧
      ∃ id, last.namedSublocation? override.1 =
        some ⟨id, world.renamed edge.target, override.1⟩ := by
  obtain ⟨⟨room, isRoom, named⟩, free⟩ :=
    again.clear.overrides edge (mem_edgesOf.1 member).1 override listed positive
  obtain ⟨inside, below⟩ := mem_sublocationsOf.1 isRoom
  have isKey : world.RoomKey room override.1 :=
    ⟨mem_nodesOf.2 ⟨inside, Node.type_of_parent below⟩, named, free⟩
  refine ⟨again.namedLocation?_of_roomKey isKey, world.renamed room.id, ?_⟩
  rw [again.namedSublocation?_of_roomKey isKey below, named]

omit again in
/-- Keys that lead to sublocations of one place add overrides to it. -/
theorem foldl_follow_rooms (settings : GraphSettings) {rooms : List (String × Float)}
    {home : ElementId} (named : ∀ room ∈ rooms, last.namedLocation? room.1 = none ∧
      ∃ id, last.namedSublocation? room.1 = some ⟨id, home, room.1⟩)
    (targets : Table ElementId (Float × Table String Float)) (unresolved : List String)
    (probability : Float) (overrides : Table String Float) :
    rooms.foldl (Draft.SpawnTargets.follow settings last)
        ⟨targets.insert home (probability, overrides), unresolved⟩ =
      ⟨targets.insert home
          (probability, rooms.foldl (fun table room => table.insert room.1 room.2) overrides),
        unresolved⟩ := by
  induction rooms generalizing overrides with
  | nil => rfl
  | cons room rest ih =>
    obtain ⟨free, id, leads⟩ := named room (List.mem_cons_self ..)
    have found : (targets.insert home (probability, overrides)).get? home =
        some (probability, overrides) := by
      rw [Table.get?_insert, if_pos rfl]
    rw [List.foldl_cons, Draft.follow_sublocation settings last _ free leads]
    simp only [found, Option.getD_some, Table.insert_insert, List.foldl_cons]
    exact ih (fun other member => named other (List.mem_cons_of_mem _ member)) _

/-- Following what a spawn edge says binds the copy of its target to just that. -/
theorem Reimport.foldl_follow_edge {edge : Edge} (member : edge ∈ world.edgesOf .spawn)
    (spoken : world.Spoken config.graph edge)
    {targets : Table ElementId (Float × Table String Float)}
    (fresh : world.renamed edge.target ∉ targets.keys) (unresolved : List String) :
    (world.edgeSpawns edge).foldl (Draft.SpawnTargets.follow config.graph last)
        ⟨targets, unresolved⟩ =
      ⟨targets.insert (world.renamed edge.target) edge.kind.chances, unresolved⟩ := by
  have rooms : ∀ override ∈ edge.kind.overrides.entries,
      last.namedLocation? override.1 = none ∧ ∃ id, last.namedSublocation? override.1 =
        some ⟨id, world.renamed edge.target, override.1⟩ :=
    fun override listed =>
      again.names_of_override member listed (spoken.positive override listed)
  have absent : targets.get? (world.renamed edge.target) = none := Table.get?_eq_none_iff.2 fresh
  have something := spoken.speaks
  have standard := spoken.standard
  obtain ⟨probability, overrides, kind⟩ := Edge.kind_of_spawn (mem_edgesOf.1 member).2
  simp only [kind, EdgeKind.chances, EdgeKind.overrides] at rooms standard ⊢
  rw [spoken.edgeSpawns_eq kind] at something ⊢
  have whole : overrides.entries.foldl (fun table room => table.insert room.1 room.2) .empty =
      overrides :=
    Table.ofList_entries overrides
  cases known : world.keyword? edge.target with
  | some key =>
    -- The keyword of the target is followed first, and the overrides are added to it.
    obtain ⟨-, -, place, isPlace, -, toThere, -⟩ := again.typed.spawn_ends member
    have leads : last.namedLocation? (key, probability).1 =
        some (world.renamed edge.target) := by
      rw [← toThere, again.valid.keyword?_eq (mem_nodesOf.1 isPlace).1] at known
      rw [← toThere]
      exact again.namedLocation?_of_placeKey ⟨isPlace, known⟩
    have step : Draft.SpawnTargets.follow config.graph last ⟨targets, unresolved⟩
        (key, probability) =
          ⟨targets.insert (world.renamed edge.target) (probability, .empty), unresolved⟩ := by
      refine (Draft.follow_location config.graph last _ leads).trans ?_
      simp only [absent, Option.map_none, Option.getD_none]
    rw [Option.toList_some, List.map_singleton, List.singleton_append, List.foldl_cons, step,
      foldl_follow_rooms config.graph rooms, whole]
  | none =>
    -- The first override is followed first, and it gives the place the default probability.
    cases listed : overrides.entries with
    | nil =>
      rw [known, listed] at something
      exact absurd rfl something
    | cons first rest =>
      rw [listed] at rooms
      obtain ⟨free, id, leads⟩ := rooms first (List.mem_cons_self ..)
      rw [listed, List.foldl_cons] at whole
      have step : Draft.SpawnTargets.follow config.graph last ⟨targets, unresolved⟩ first =
          ⟨targets.insert (world.renamed edge.target)
            (probability, Table.empty.insert first.1 first.2), unresolved⟩ := by
        refine (Draft.follow_sublocation config.graph last _ free leads).trans ?_
        simp only [absent, Option.getD_none, standard known]
      have later := fun room member => rooms room (List.mem_cons_of_mem first member)
      rw [Option.toList_none, List.map_nil, List.nil_append, List.foldl_cons, step,
        foldl_follow_rooms config.graph later, whole]

/-- Following what spawn edges to different places say binds the copies of these places. -/
theorem Reimport.foldl_follow_edges {edges : List Edge}
    (spoken : ∀ edge ∈ edges, edge ∈ world.edgesOf .spawn ∧ world.Spoken config.graph edge)
    (distinct : (edges.map fun edge => world.renamed edge.target).Nodup)
    {targets : Table ElementId (Float × Table String Float)}
    (fresh : ∀ edge ∈ edges, world.renamed edge.target ∉ targets.keys)
    (unresolved : List String) :
    (edges.flatMap world.edgeSpawns).foldl (Draft.SpawnTargets.follow config.graph last)
        ⟨targets, unresolved⟩ =
      ⟨(edges.map fun edge => (world.renamed edge.target, edge.kind.chances)).foldl
          (fun table pair => table.insert pair.1 pair.2) targets, unresolved⟩ := by
  induction edges generalizing targets with
  | nil => rfl
  | cons edge rest ih =>
    obtain ⟨isSpawn, here⟩ := spoken edge (List.mem_cons_self ..)
    rw [List.map_cons, List.nodup_cons] at distinct
    rw [List.flatMap_cons, List.foldl_append,
      again.foldl_follow_edge isSpawn here (fresh edge (List.mem_cons_self ..)), List.map_cons,
      List.foldl_cons]
    refine ih (fun other member => spoken other (List.mem_cons_of_mem _ member)) distinct.2 ?_
    intro other member bound
    rcases Table.mem_keys_insert.1 bound with same | bound
    · exact distinct.1 (List.mem_map.2 ⟨other, member, same⟩)
    · exact fresh other (List.mem_cons_of_mem _ member) bound

end Following

namespace Settled

variable (settled : world.Settled config.graph) (again : world.Reimport config last)

include settled again

/-- The nodes of a settled world keep their identities. -/
theorem renamed_eq {node : Node} (member : node ∈ world.nodes) :
    world.renamed node.id = node.id := by
  obtain ⟨before, after, split⟩ := List.append_of_mem member
  rw [again.valid.renamed_of_eq_append (settled.ordered.trans split)]
  exact (settled.numbered.nodes before.length node (by simp [split])).symm

theorem renamed_source {edge : Edge} (member : edge ∈ world.edges) :
    world.renamed edge.source = edge.source := by
  obtain ⟨node, inside, same⟩ := (again.valid.ends edge member).1
  rw [← same, settled.renamed_eq again inside]

theorem renamed_target {edge : Edge} (member : edge ∈ world.edges) :
    world.renamed edge.target = edge.target := by
  obtain ⟨node, inside, same⟩ := (again.valid.ends edge member).2
  rw [← same, settled.renamed_eq again inside]

/-- A spawn table leads to the targets of the spawn edges of its node, in order. -/
theorem entries_targets (id : ElementId) :
    (Draft.spawnTargets config.graph last (world.spawnTable id)).targets.entries =
      ((world.edgesOf .spawn).filter fun edge => decide (edge.source = id)).map fun edge =>
        (world.renamed edge.target, edge.kind.chances) := by
  have inside : ∀ edge ∈ (world.edgesOf .spawn).filter (fun edge => decide (edge.source = id)),
      edge ∈ world.edgesOf .spawn ∧ edge.source = id := by
    intro edge member
    exact (List.mem_filter.1 member).imp_right of_decide_eq_true
  have distinct : (((world.edgesOf .spawn).filter fun edge => decide (edge.source = id)).map
      fun edge => world.renamed edge.target).Nodup := by
    refine List.Nodup.map_on ?_ (((again.valid.edges_nodup.of_map Edge.id).filter _).filter _)
    intro first isFirst second isSecond same
    obtain ⟨isFirst, fromHere⟩ := inside first isFirst
    obtain ⟨isSecond, alsoFromHere⟩ := inside second isSecond
    have isFirst := (mem_edgesOf.1 isFirst).1
    have isSecond := (mem_edgesOf.1 isSecond).1
    rw [settled.renamed_target again isFirst, settled.renamed_target again isSecond] at same
    exact settled.simple first isFirst second isSecond
      (decide_eq_true (Or.inl ⟨alsoFromHere.trans fromHere.symm, same.symm⟩))
  have fresh : ∀ edge ∈ (world.edgesOf .spawn).filter (fun edge => decide (edge.source = id)),
      world.renamed edge.target ∉
        (Table.empty : Table ElementId (Float × Table String Float)).keys := by
    intro edge _ bound
    cases bound
  have followed := again.foldl_follow_edges
    (fun edge member => ⟨(inside edge member).1, settled.spoken edge (inside edge member).1⟩)
    distinct fresh []
  rw [Draft.spawnTargets,
    again.clear.entries_spawnTable again.valid again.typed settled.simple id]
  refine (congrArg (fun found => found.targets.entries) followed).trans ?_
  exact Table.entries_ofList (by rwa [List.map_map])

/-- The spawn tables make the spawn edges again. -/
theorem spawnLinks_eq :
    (castPlacements config world.entries.length world.items).flatMap
        (Placement.spawnLinks config.graph last) =
      (world.edgesOf .spawn).map Edge.link := by
  have aligned := forall₂_and_mem (again.clear.aligned_cast again.valid config)
  have same : (castPlacements config world.entries.length world.items).flatMap
      (Placement.spawnLinks config.graph last) = world.castNodes.flatMap fun node =>
        ((world.edgesOf .spawn).filter fun edge => decide (edge.source = node.id)).map
          Edge.link := by
    refine flatMap_eq_of_forall₂ aligned ?_
    rintro node placed ⟨isCast, here⟩
    have inside := (mem_castNodes.1 isCast).1
    have own : placed.id = node.id :=
      (here.own again.valid rfl (nodeType_castEntry isCast)).trans
        (settled.renamed_eq again inside)
    rw [Placement.spawnLinks, here.1,
      again.clear.isAnywhere_castEntry again.valid again.typed isCast]
    cases anywhere : node.isGlobalEvent with
    | true =>
      rw [if_pos rfl, List.filter_eq_nil_iff.2, List.map_nil]
      intro edge isSpawn fromHere
      exact settled.bound node inside anywhere edge isSpawn (of_decide_eq_true fromHere)
    | false =>
      rw [if_neg Bool.false_ne_true, spawnTable_castEntry anywhere,
        settled.entries_targets again node.id, List.map_map]
      refine List.map_congr_left fun edge member => ?_
      obtain ⟨isSpawn, fromHere⟩ := List.mem_filter.1 member
      obtain ⟨isEdge, typed⟩ := mem_edgesOf.1 isSpawn
      have target := settled.renamed_target again isEdge
      have source := of_decide_eq_true fromHere
      obtain ⟨probability, overrides, kind⟩ := Edge.kind_of_spawn typed
      simp only [Function.comp_apply, own, target, kind, EdgeKind.chances, Edge.link, source]
  rw [same, ← List.map_flatMap, settled.spawns]

/-! ## Edges without direction -/

/-- A node mentions each edge that leads from it as the edge is. -/
theorem mention_of_source {kind : NodeType} {type : EdgeType} (bond : Mutual kind type)
    {node : Node} (isNode : node ∈ world.nodes) {edge : Edge}
    (member : edge ∈ world.edgesOf type) (fromHere : edge.source = node.id) :
    world.mention node edge = some edge.link := by
  obtain ⟨inside, typed⟩ := mem_edgesOf.1 member
  obtain ⟨-, -, -, -, -, -, differ⟩ := again.typed.joinsApart bond _ member
  have opposite : edge.otherEnd node.id = some edge.target := if_pos fromHere
  have keyed := (settled.arranged bond).keyed edge member
  refine mention_eq_some_iff.2 ⟨edge.target, opposite, keyed, ?_⟩
  have source := settled.renamed_eq again isNode
  have target := settled.renamed_target again inside
  rw [told, source, target, ← fromHere]
  cases kind : edge.kind with
  | spawn | adjacent => rw [Edge.link, kind]
  | knows relationship sourceThinks targetThinks =>
    have known : edge ∈ world.edgesOf .knows := mem_edgesOf.2 ⟨inside, by rw [Edge.type, kind]; rfl⟩
    have back : (node.firstKeyword.map fun _ => targetThinks).getD "" = targetThinks := by
      cases keyed : node.firstKeyword with
      | some key => rfl
      | none =>
        have quiet := settled.unheard edge known
          (by rw [fromHere, again.valid.keyword?_eq isNode, keyed])
        rw [Edge.seenFrom, kind] at quiet
        exact ((if_neg differ).symm.trans quiet).symm
    simp only [Edge.seenFrom, kind, if_true, if_neg differ, back, Edge.link]

/-- What the nodes mention makes the edges of a kind without direction again. -/
theorem linksOnce_mentionLinks {kind : NodeType} {type : EdgeType} (bond : Mutual kind type) :
    linksOnce [] (last.mentionLinks config world.entries.length world.items type) =
      (world.edgesOf type).map Edge.link := by
  have arranged := settled.arranged bond
  have own : ((world.nodesOf kind).flatMap fun node =>
      ((world.edgesRead type node.id).filter fun edge => decide (edge.source = node.id)).map
        Edge.link) = (world.edgesOf type).map Edge.link := by
    rw [← List.map_flatMap]
    congr 1
    refine (List.flatMap_congr fun node _ => ?_).trans arranged.grouped
    exact again.typed.filter_edgesRead bond node.id
  rw [again.mentionLinks_eq settled.simple bond]
  refine (linksOnce_flatMap (fun node isNode edge isRead fromHere => ?_)
    (fun before node after split edge isRead notFrom mentioned tells => ?_) ?_).trans own
  · have member := mem_edgesOf_of_mem_edgesRead isRead
    obtain ⟨-, -, -, -, -, -, differ⟩ := again.typed.joinsApart bond _ member
    exact ⟨settled.mention_of_source again bond (mem_nodesOf.1 isNode).1 member
      (of_decide_eq_true fromHere), differ.symm⟩
  · -- The edge leads here, from a node that comes before and is the first to mention it.
    have member := mem_edgesOf_of_mem_edgesRead isRead
    obtain ⟨inside, -⟩ := mem_edgesOf.1 member
    obtain ⟨other, opposite, keyed, rfl⟩ := mention_eq_some_iff.1 tells
    have elsewhere : ¬ edge.source = node.id := of_decide_eq_false notFrom
    rw [Edge.otherEnd, if_neg elsewhere] at opposite
    obtain ⟨toHere, same⟩ := Option.ite_none_right_eq_some.1 opposite
    cases same
    obtain ⟨first, isEarlier, same⟩ :=
      arranged.earlier before node after split edge member toHere keyed
    have isNode : node ∈ world.nodesOf kind := by
      rw [split]
      simp
    have made : edge.link ∈ ((world.edgesRead type first.id).filter fun edge =>
        decide (edge.source = first.id)).map Edge.link := by
      rw [again.typed.filter_edgesRead bond first.id]
      exact List.mem_map_of_mem (List.mem_filter.2 ⟨member, decide_eq_true same.symm⟩)
    refine ⟨edge.link, List.mem_flatMap.2 ⟨first, isEarlier, made⟩, Or.inr ⟨?_, ?_⟩⟩
    · exact (settled.renamed_source again inside).symm
    · exact toHere.trans (settled.renamed_eq again (mem_nodesOf.1 isNode).1).symm
  · rw [own, List.pairwise_map]
    refine List.Pairwise.imp_of_mem ?_ ((again.valid.edges_nodup.of_map Edge.id).filter _)
    intro first second isFirst isSecond differ joins
    exact differ (settled.simple second (mem_edgesOf.1 isSecond).1 first (mem_edgesOf.1 isFirst).1
      (decide_eq_true joins)).symm

/-! ## The world again -/

/-- The edges come back as they are. -/
theorem edges_eq : last.edges = world.edges := by
  have links : last.links config world.entries.length world.items =
      world.edges.map Edge.link := by
    have borders : linksOnce [] (Draft.linked
        (last.triggerReferences config world.entries.length world.items)) =
          (world.edgesOf .adjacent).map Edge.link :=
      settled.linksOnce_mentionLinks again .adjacent
    have known : linksOnce [] (Draft.linked
        (last.knowsReferences config world.entries.length world.items)) =
          (world.edgesOf .knows).map Edge.link :=
      settled.linksOnce_mentionLinks again .knows
    rw [Draft.links, settled.spawnLinks_eq again, borders, known, ← List.map_append,
      ← List.map_append, ← settled.sorted]
  rw [again.whole.edges, links]
  refine numberedEdges_map_link fun i edge found => ?_
  rw [settled.numbered.edges i edge found, Nat.zero_add]

/-- The nodes come back as they are, except for where they stand. -/
theorem nodes_alike : List.Forall₂ Node.Alike world.nodes last.nodes := by
  have copied := forall₂_and_mem again.copied
  rw [settled.ordered] at copied
  refine copied.imp fun node copy both => ?_
  have same := (settled.plain node both.1).renumbered both.2
  have kind : node.kind.moved world.renamed = node.kind := by
    cases kind : node.kind with
    | location | character | event => rfl
    | sublocation parent =>
      have below : node.parent = some parent := by
        rw [Node.parent, kind]
      obtain ⟨place, isPlace, rfl, -⟩ := again.valid.parents node both.1 parent below
      rw [NodeKind.moved, settled.renamed_eq again isPlace]
  rw [Node.Renumbered, kind, settled.renamed_eq again both.1] at same
  exact same

/-- **A settled world is exported to the same entries again.** -/
theorem entries_eq : last.outcome.world.entries = world.entries :=
  entries_of_alike (settled.nodes_alike again) (settled.edges_eq again)

end Settled

end Snapshot

end StoryWorld

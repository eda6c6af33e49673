import StoryWorld.Proofs.Lore.Renumbering

/-!
# What entries read of other nodes

The entry of a node repeats what stands in the node. Of the rest of the world it reads little: the
edges at the node, the first keywords of their other ends, and the names and images of the
sublocations of a location. So two worlds can be exported side by side as soon as their nodes and
edges correspond one by one, and nodes that correspond have the same kind, the same first keyword
and, up to renaming, the same identity and the same parent (`Snapshot.LinkedAlike`). The entries of
two nodes that correspond are the same if the nodes show the same and so do their sublocations
(`LinkedAlike.entryOf_eq`).

The renaming must keep apart what is compared, which is an identity that something refers to and
the identity of a node. For a valid world it is enough that different nodes get different
identities. Then identities do not come out at all: a world is exported to the same entries whatever
its nodes and edges are called and wherever its nodes stand (`entries_of_renamed`).
-/

set_option autoImplicit false

namespace StoryWorld

/-! ## Nodes and edges that are linked alike -/

/-- What the rest of a world reads of two nodes is the same up to renaming. -/
structure Node.LinkedAlike (rename : ElementId → ElementId) (node copy : Node) : Prop where
  id : copy.id = rename node.id
  type : copy.type = node.type
  parent : copy.parent = node.parent.map rename
  firstKeyword : copy.firstKeyword = node.firstKeyword

/-- Two edges say the same of their ends, which are the same up to renaming. -/
structure Edge.LinkedAlike (rename : ElementId → ElementId) (edge copy : Edge) : Prop where
  source : copy.source = rename edge.source
  target : copy.target = rename edge.target
  kind : copy.kind = edge.kind

theorem Edge.LinkedAlike.type {rename : ElementId → ElementId} {edge copy : Edge}
    (alike : edge.LinkedAlike rename copy) : copy.type = edge.type := by
  rw [Edge.type, alike.kind, Edge.type]

theorem NodeKind.type_moved (rename : ElementId → ElementId) (kind : NodeKind) :
    (kind.moved rename).type = kind.type := by
  cases kind <;> rfl

/-- A renumbered node is linked as the node was. -/
theorem Node.Renumbered.linkedAlike {rename : ElementId → ElementId} {node copy : Node}
    (same : node.Renumbered rename copy) : node.LinkedAlike rename copy := by
  rw [same]
  refine ⟨rfl, node.kind.type_moved rename, ?_, rfl⟩
  rw [Node.parent, Node.parent]
  cases node.kind <;> rfl

namespace Snapshot

/-- A node lies in what has the identity, or an edge ends there. -/
def RefersTo (world : Snapshot) (id : ElementId) : Prop :=
  (∃ node ∈ world.nodes, node.parent = some id) ∨
    ∃ edge ∈ world.edges, edge.source = id ∨ edge.target = id

/-- In a valid world nothing but nodes is referred to. -/
theorem Valid.hasNode_of_refersTo {world : Snapshot} (valid : world.Valid) {id : ElementId}
    (refers : world.RefersTo id) : world.HasNode id := by
  rcases refers with ⟨node, member, placed⟩ | ⟨edge, member, rfl | rfl⟩
  · obtain ⟨place, isPlace, own, -⟩ := valid.parents node member id placed
    exact ⟨place, isPlace, own⟩
  · exact (valid.ends edge member).1
  · exact (valid.ends edge member).2

/-- The nodes and edges of two worlds are linked alike, one by one. -/
structure LinkedAlike (rename : ElementId → ElementId) (world other : Snapshot) : Prop where
  nodes : List.Forall₂ (Node.LinkedAlike rename) world.nodes other.nodes
  edges : List.Forall₂ (Edge.LinkedAlike rename) world.edges other.edges
  /-- What is referred to does not become another node. -/
  told : ∀ id, world.RefersTo id → ∀ node ∈ world.nodes, rename id = rename node.id → id = node.id

/-! ## The entries of the nodes -/

/-- The nodes that have entries, in the order of the entries. -/
def subjects (world : Snapshot) : List Node := world.nodesOf .location ++ world.castNodes

/-- The entry of a node that has one. -/
def entryOf (world : Snapshot) (node : Node) : Entry :=
  if node.type = .location then world.locationEntry node else world.castEntry node

theorem mem_subjects {world : Snapshot} {node : Node} :
    node ∈ world.subjects ↔ node ∈ world.nodes ∧ node.type ≠ .sublocation := by
  rw [subjects, List.mem_append, mem_nodesOf, mem_castNodes, ← and_or_left]
  refine and_congr_right fun _ => ?_
  cases node.type <;> decide

/-- A lorebook has one entry for each of these nodes. -/
theorem entries_eq_map_subjects (world : Snapshot) :
    world.entries = world.subjects.map world.entryOf := by
  rw [entries_eq, subjects, List.map_append]
  congr 1
  · refine List.map_congr_left fun node member => ?_
    rw [entryOf, if_pos (mem_nodesOf.1 member).2]
  · refine List.map_congr_left fun node member => ?_
    rw [entryOf, if_neg]
    rcases (mem_castNodes.1 member).2 with own | own <;> rw [own] <;> exact NodeType.noConfusion

namespace LinkedAlike

variable {rename : ElementId → ElementId} {world other : Snapshot}
  (linked : LinkedAlike rename world other)

include linked

/-! ## Reading alike -/

theorem rename_eq_iff {id : ElementId} (refers : world.RefersTo id) {node : Node}
    (member : node ∈ world.nodes) : rename id = rename node.id ↔ id = node.id :=
  ⟨linked.told id refers node member, congrArg rename⟩

/-- What is referred to has the same keyword. -/
theorem keyword?_eq {id : ElementId} (refers : world.RefersTo id) :
    other.keyword? (rename id) = world.keyword? id := by
  have found : Option.Rel (fun node copy => node ∈ world.nodes ∧ node.LinkedAlike rename copy)
      (world.lastNode? id) (other.lastNode? (rename id)) := by
    refine rel_find? (List.rel_reverse (forall₂_and_mem linked.nodes)) ?_
    rintro node copy ⟨member, alike⟩
    rw [alike.id, decide_eq_decide, eq_comm, linked.rename_eq_iff refers member, eq_comm]
  exact bind_eq_of_optionRel found fun node copy both => both.2.firstKeyword

theorem keyword?_source {edge copy : Edge} (member : edge ∈ world.edges)
    (alike : edge.LinkedAlike rename copy) :
    other.keyword? copy.source = world.keyword? edge.source := by
  rw [alike.source, linked.keyword?_eq (Or.inr ⟨edge, member, Or.inl rfl⟩)]

theorem keyword?_target {edge copy : Edge} (member : edge ∈ world.edges)
    (alike : edge.LinkedAlike rename copy) :
    other.keyword? copy.target = world.keyword? edge.target := by
  rw [alike.target, linked.keyword?_eq (Or.inr ⟨edge, member, Or.inr rfl⟩)]

theorem forall₂_nodesOf (type : NodeType) :
    List.Forall₂ (Node.LinkedAlike rename) (world.nodesOf type) (other.nodesOf type) := by
  refine List.rel_filter ?_ linked.nodes
  intro node copy alike
  simp only [alike.type]

theorem forall₂_edgesOf (type : EdgeType) :
    List.Forall₂ (fun edge copy => edge ∈ world.edges ∧ edge.LinkedAlike rename copy)
      (world.edgesOf type) (other.edgesOf type) := by
  refine List.rel_filter ?_ (forall₂_and_mem linked.edges)
  rintro edge copy ⟨-, alike⟩
  simp only [alike.type]

section Subject

variable {node : Node} (member : node ∈ world.nodes)

include member

theorem source_eq_iff {edge copy : Edge} (isEdge : edge ∈ world.edges)
    (alike : edge.LinkedAlike rename copy) :
    copy.source = rename node.id ↔ edge.source = node.id := by
  rw [alike.source]
  exact linked.rename_eq_iff (Or.inr ⟨edge, isEdge, Or.inl rfl⟩) member

theorem target_eq_iff {edge copy : Edge} (isEdge : edge ∈ world.edges)
    (alike : edge.LinkedAlike rename copy) :
    copy.target = rename node.id ↔ edge.target = node.id := by
  rw [alike.target]
  exact linked.rename_eq_iff (Or.inr ⟨edge, isEdge, Or.inr rfl⟩) member

theorem forall₂_edgesFrom (type : EdgeType) :
    List.Forall₂ (fun edge copy => edge ∈ world.edges ∧ edge.LinkedAlike rename copy)
      ((world.edgesOf type).filter fun edge => decide (edge.source = node.id))
      ((other.edgesOf type).filter fun edge => decide (edge.source = rename node.id)) := by
  refine List.rel_filter ?_ (linked.forall₂_edgesOf type)
  rintro edge copy ⟨isEdge, alike⟩
  simp only [decide_eq_true_eq, linked.source_eq_iff member isEdge alike]

theorem forall₂_edgesTo (type : EdgeType) :
    List.Forall₂ (fun edge copy => edge ∈ world.edges ∧ edge.LinkedAlike rename copy)
      ((world.edgesOf type).filter fun edge => decide (edge.target = node.id))
      ((other.edgesOf type).filter fun edge => decide (edge.target = rename node.id)) := by
  refine List.rel_filter ?_ (linked.forall₂_edgesOf type)
  rintro edge copy ⟨isEdge, alike⟩
  simp only [decide_eq_true_eq, linked.target_eq_iff member isEdge alike]

/-- The neighbours of a node have the same keywords in the same order. -/
theorem neighbours_eq :
    (other.neighbours (rename node.id)).filterMap other.keyword? =
      (world.neighbours node.id).filterMap world.keyword? := by
  simp only [neighbours, List.filterMap_append, List.filterMap_map]
  congr 1
  · exact filterMap_eq_of_forall₂ (linked.forall₂_edgesFrom member .adjacent)
      fun edge copy both => linked.keyword?_target both.1 both.2
  · exact filterMap_eq_of_forall₂ (linked.forall₂_edgesTo member .adjacent)
      fun edge copy both => linked.keyword?_source both.1 both.2

theorem acquaintances_eq :
    other.acquaintances (rename node.id) = world.acquaintances node.id := by
  refine flatMap_eq_of_forall₂ (linked.forall₂_edgesOf .knows) ?_
  rintro edge copy ⟨isEdge, alike⟩
  simp only [edgeAcquaintances, alike.kind, linked.keyword?_source isEdge alike,
    linked.keyword?_target isEdge alike, linked.source_eq_iff member isEdge alike,
    linked.target_eq_iff member isEdge alike]

theorem spawnTable_eq : other.spawnTable (rename node.id) = world.spawnTable node.id := by
  have said : other.spawns (rename node.id) = world.spawns node.id := by
    refine flatMap_eq_of_forall₂ (linked.forall₂_edgesFrom member .spawn) ?_
    rintro edge copy ⟨isEdge, alike⟩
    simp only [edgeSpawns, alike.kind, linked.keyword?_target isEdge alike]
  rw [spawnTable, said, spawnTable]

/-- **What an entry reads.** Nodes that show the same have the same entry in worlds that are linked
alike, if their sublocations show the same. -/
theorem entryOf_eq {copy : Node} (shown : node.Renumbered rename copy)
    (rooms : other.sublocationTable (rename node.id) = world.sublocationTable node.id) :
    other.entryOf copy = world.entryOf node := by
  have own : copy.id = rename node.id := shown.linkedAlike.id
  have type : copy.type = node.type := shown.linkedAlike.type
  have borders := linked.neighbours_eq member
  have known := linked.acquaintances_eq member
  have spawns := linked.spawnTable_eq member
  unfold entryOf
  rw [type]
  split
  case isTrue =>
    rw [locationEntry, locationEntry, own, borders, rooms, shown]
    rfl
  case isFalse =>
    rw [castEntry, castEntry, type]
    split
    case isTrue =>
      rw [characterEntry, characterEntry, own, known, spawns, shown]
      cases node.kind <;> rfl
    case isFalse =>
      rw [eventEntry, eventEntry, eventSpawnTable, eventSpawnTable, own, spawns, shown]
      cases node.kind <;> rfl

end Subject

end LinkedAlike

/-! ## Renamed worlds -/

section Renamed

variable {rename : ElementId → ElementId} {world other : Snapshot} (valid : world.Valid)
  (injective : ∀ first ∈ world.nodes, ∀ second ∈ world.nodes,
    rename first.id = rename second.id → first.id = second.id)
  (nodes : List.Forall₂ (Node.Renumbered rename) world.nodes other.nodes)
  (edges : List.Forall₂ (Edge.LinkedAlike rename) world.edges other.edges)

include valid injective nodes edges

/-- A renaming that keeps nodes apart leaves them linked as they were. -/
theorem linkedAlike_of_renamed : LinkedAlike rename world other where
  nodes := nodes.imp fun _ _ same => same.linkedAlike
  edges := edges
  told := by
    intro id refers node member same
    obtain ⟨first, isFirst, rfl⟩ := valid.hasNode_of_refersTo refers
    exact injective first isFirst node member same

/-- The sublocations of a location come along in order. -/
theorem sublocationTable_of_renamed {node : Node} (member : node ∈ world.nodes) :
    other.sublocationTable (rename node.id) = world.sublocationTable node.id := by
  have linked := linkedAlike_of_renamed valid injective nodes edges
  have rooms : List.Forall₂ (fun room copy => room ∈ world.nodes ∧ room.Renumbered rename copy)
      (world.sublocationsOf node.id) (other.sublocationsOf (rename node.id)) := by
    refine List.rel_filter ?_ (forall₂_and_mem nodes)
    rintro room copy ⟨isRoom, shown⟩
    simp only [decide_eq_true_eq, shown.linkedAlike.parent, Option.map_eq_some_iff]
    constructor
    · intro placed
      exact ⟨node.id, placed, rfl⟩
    · rintro ⟨parent, placed, same⟩
      rw [placed, linked.told parent (Or.inl ⟨room, isRoom, placed⟩) node member same]
  unfold sublocationTable
  rw [map_eq_of_forall₂ rooms fun room _ copy both => ?_]
  rw [both.2]

end Renamed

/-- **Identities are not exported.** When the nodes of a valid world get other identities, different
ones for different nodes, and the parents of sublocations and the ends of edges with them, the
lorebook stays the same in every detail and order. So it does not depend on the identities of edges
either, and not on where nodes stand. -/
theorem entries_of_renamed {world other : Snapshot} {rename : ElementId → ElementId}
    (accepted : world.validate = .ok ())
    (injective : ∀ first ∈ world.nodes, ∀ second ∈ world.nodes,
      rename first.id = rename second.id → first.id = second.id)
    (nodes : List.Forall₂ (Node.Renumbered rename) world.nodes other.nodes)
    (edges : List.Forall₂ (Edge.LinkedAlike rename) world.edges other.edges) :
    other.entries = world.entries := by
  have valid := validate_eq_ok_iff.1 accepted
  have linked := linkedAlike_of_renamed valid injective nodes edges
  have shown : List.Forall₂ (Node.Renumbered rename) world.subjects other.subjects := by
    have keep : ∀ type, List.Forall₂ (Node.Renumbered rename) (world.nodesOf type)
        (other.nodesOf type) := by
      refine fun type => List.rel_filter ?_ nodes
      intro node copy same
      simp only [same.linkedAlike.type]
    exact List.rel_append (keep .location) (List.rel_append (keep .character) (keep .event))
  rw [entries_eq_map_subjects, entries_eq_map_subjects]
  refine map_eq_of_forall₂ shown fun node member copy same => ?_
  have inside := (mem_subjects.1 member).1
  exact linked.entryOf_eq inside same
    (sublocationTable_of_renamed valid injective nodes edges inside)

end Snapshot

/-- An identity with a word before it. -/
def oldName (id : ElementId) : ElementId := ⟨"old " ++ id.text⟩

/-- The harbour with a word before the identity of every node, one identity for all edges, and every
node in the corner of the canvas. -/
def oldHarbour : Snapshot where
  nodes := harbour.nodes.map fun node =>
    { node with id := oldName node.id, position := .origin, kind := node.kind.moved oldName }
  edges := harbour.edges.map fun edge =>
    ⟨⟨"line"⟩, oldName edge.source, oldName edge.target, edge.kind⟩

theorem entries_oldHarbour :
    harbour.validate = .ok () ∧
      (∀ first ∈ harbour.nodes, ∀ second ∈ harbour.nodes,
        oldName first.id = oldName second.id → first.id = second.id) ∧
      oldHarbour.entries = harbour.entries := by
  have accepted : harbour.validate = .ok () := by decide +kernel
  have injective : ∀ first ∈ harbour.nodes, ∀ second ∈ harbour.nodes,
      oldName first.id = oldName second.id → first.id = second.id := by decide +kernel
  have nodes : List.Forall₂ (Node.Renumbered oldName) harbour.nodes oldHarbour.nodes :=
    List.forall₂_map_right_iff.2 (List.forall₂_same.2 fun _ _ => rfl)
  have edges : List.Forall₂ (Edge.LinkedAlike oldName) harbour.edges oldHarbour.edges :=
    List.forall₂_map_right_iff.2 (List.forall₂_same.2 fun _ _ => ⟨rfl, rfl, rfl⟩)
  exact ⟨accepted, injective, Snapshot.entries_of_renamed accepted injective nodes edges⟩

end StoryWorld

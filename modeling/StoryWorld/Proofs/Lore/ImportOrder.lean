import Mathlib.Data.List.Forall2
import Mathlib.Data.List.Nodup
import StoryWorld.Proofs.Graph.NumberedIds
import StoryWorld.Proofs.Graph.Validity
import StoryWorld.Proofs.Lore.Assembly
import StoryWorld.Proofs.Lore.Exported

/-!
# Where the nodes of a world come in its own import

A world is exported location by location, then character by character and event by event, and what
is imported again is numbered in this order. `Snapshot.importOrder` lists the nodes of a world as
they come back: each location with its sublocations behind it, then the characters, then the events.
In a valid world this is all of them (`Valid.importOrder_perm`), so counting along the list gives
every node the identity that it will have (`Snapshot.renamed`), and different nodes get different
ones (`Valid.renamed_inj`).

The placements of the exported entries follow the list step by step (`aligned_placements`).
-/

set_option autoImplicit false

namespace StoryWorld

namespace Snapshot

variable {world : Snapshot}

/-! ## The order of the nodes -/

/-- A location with its sublocations behind it. -/
def family (world : Snapshot) (node : Node) : List Node := node :: world.sublocationsOf node.id

/-- The characters, then the events. -/
def castNodes (world : Snapshot) : List Node := world.nodesOf .character ++ world.nodesOf .event

/-- The nodes of a world in the order in which an import of its entries makes them. -/
def importOrder (world : Snapshot) : List Node :=
  (world.nodesOf .location).flatMap world.family ++ world.castNodes

theorem mem_castNodes {node : Node} :
    node ∈ world.castNodes ↔
      node ∈ world.nodes ∧ (node.type = .character ∨ node.type = .event) := by
  rw [castNodes, List.mem_append, mem_nodesOf, mem_nodesOf, ← and_or_left]

theorem mem_family {node other : Node} :
    other ∈ world.family node ↔
      other = node ∨ other ∈ world.nodes ∧ other.parent = some node.id := by
  rw [family, List.mem_cons, mem_sublocationsOf]

theorem nodup_of_nodup_ids {nodes : List Node} (distinct : (nodes.map Node.id).Nodup) :
    nodes.Nodup :=
  distinct.of_map Node.id

section Valid

variable (valid : world.Valid)

include valid

theorem Valid.mem_importOrder {node : Node} : node ∈ world.importOrder ↔ node ∈ world.nodes := by
  rw [importOrder, List.mem_append, List.mem_flatMap, mem_castNodes]
  constructor
  · rintro (⟨location, listed, inside⟩ | ⟨member, -⟩)
    · rcases mem_family.1 inside with rfl | ⟨member, -⟩
      · exact (mem_nodesOf.1 listed).1
      · exact member
    · exact member
  · intro member
    cases type : node.type with
    | location =>
      exact Or.inl ⟨node, mem_nodesOf.2 ⟨member, type⟩, mem_family.2 (Or.inl rfl)⟩
    | character => exact Or.inr ⟨member, Or.inl rfl⟩
    | event => exact Or.inr ⟨member, Or.inr rfl⟩
    | sublocation =>
      obtain ⟨parent, placed⟩ := Node.parent_of_type type
      obtain ⟨location, inside, own, typed⟩ := valid.parents node member parent placed
      refine Or.inl ⟨location, mem_nodesOf.2 ⟨inside, typed⟩, mem_family.2 (Or.inr ⟨member, ?_⟩)⟩
      rw [placed, own]

/-- A location and its sublocations are different nodes. -/
theorem Valid.nodup_family {node : Node} (typed : node.type = .location) :
    (world.family node).Nodup := by
  refine List.nodup_cons.2 ⟨fun member => ?_, ?_⟩
  · have isSublocation := Node.type_of_parent (mem_sublocationsOf.1 member).2
    rw [typed] at isSublocation
    cases isSublocation
  · exact (nodup_of_nodup_ids valid.nodes_nodup).filter _

/-- A node belongs to the family of one location at most. -/
theorem Valid.family_disjoint {first second node : Node}
    (firstListed : first ∈ world.nodesOf .location)
    (secondListed : second ∈ world.nodesOf .location) (inFirst : node ∈ world.family first)
    (inSecond : node ∈ world.family second) : first = second := by
  obtain ⟨firstMember, firstType⟩ := mem_nodesOf.1 firstListed
  obtain ⟨secondMember, secondType⟩ := mem_nodesOf.1 secondListed
  rcases mem_family.1 inFirst with rfl | ⟨-, below⟩
  · rcases mem_family.1 inSecond with same | ⟨-, belowSecond⟩
    · exact same
    · rw [Node.type_of_parent belowSecond] at firstType
      cases firstType
  · rcases mem_family.1 inSecond with rfl | ⟨-, belowSecond⟩
    · rw [Node.type_of_parent below] at secondType
      cases secondType
    · rw [below] at belowSecond
      exact eq_of_id_eq valid.nodes_nodup firstMember secondMember (Option.some.inj belowSecond)

theorem Valid.nodup_importOrder : world.importOrder.Nodup := by
  have all := nodup_of_nodup_ids valid.nodes_nodup
  refine List.nodup_append.2 ⟨?_, List.nodup_append.2 ⟨all.filter _, all.filter _, ?_⟩, ?_⟩
  · refine List.pairwise_flatMap.2 ⟨fun location listed => ?_, ?_⟩
    · exact valid.nodup_family (mem_nodesOf.1 listed).2
    · refine List.Pairwise.imp_of_mem ?_ (all.filter _)
      intro first second firstListed secondListed differ node inFirst other inSecond same
      subst same
      exact differ (valid.family_disjoint firstListed secondListed inFirst inSecond)
  · intro character isCharacter event isEvent same
    have typed := (mem_nodesOf.1 isCharacter).2
    rw [same, (mem_nodesOf.1 isEvent).2] at typed
    cases typed
  · intro node isPlace other isCast same
    subst same
    obtain ⟨location, listed, inside⟩ := List.mem_flatMap.1 isPlace
    have castType := (mem_castNodes.1 isCast).2
    rcases mem_family.1 inside with rfl | ⟨-, below⟩
    · rw [(mem_nodesOf.1 listed).2] at castType
      rcases castType with typed | typed <;> cases typed
    · rw [Node.type_of_parent below] at castType
      rcases castType with typed | typed <;> cases typed

/-- The import order lists all nodes of a valid world. -/
theorem Valid.importOrder_perm : world.importOrder.Perm world.nodes :=
  (List.perm_ext_iff_of_nodup valid.nodup_importOrder (nodup_of_nodup_ids valid.nodes_nodup)).2
    fun _ => valid.mem_importOrder

theorem Valid.nodup_importOrder_ids : (world.importOrder.map Node.id).Nodup :=
  (valid.importOrder_perm.map Node.id).nodup_iff.2 valid.nodes_nodup

end Valid

theorem filter_nodesOf (world : Snapshot) (kind type : NodeType) :
    (world.nodesOf kind).filter (fun node => decide (node.type = type)) =
      if kind = type then world.nodesOf kind else [] := by
  split
  · rename_i same
    exact List.filter_eq_self.2 fun node member =>
      decide_eq_true ((mem_nodesOf.1 member).2.trans same)
  · rename_i differ
    refine List.filter_eq_nil_iff.2 fun node member typed => differ ?_
    rw [← (mem_nodesOf.1 member).2, of_decide_eq_true typed]

/-- In the import order the nodes of one kind stand as they do in the world, sublocations apart. -/
theorem filter_importOrder (world : Snapshot) {type : NodeType} (other : type ≠ .sublocation) :
    world.importOrder.filter (fun node => decide (node.type = type)) = world.nodesOf type := by
  have family : ∀ node ∈ world.nodesOf .location,
      (world.family node).filter (fun node => decide (node.type = type)) =
        [node].filter fun node => decide (node.type = type) := by
    intro node _
    have below : (world.sublocationsOf node.id).filter (fun node => decide (node.type = type)) =
        [] := by
      refine List.filter_eq_nil_iff.2 fun room member typed => other ?_
      rw [← of_decide_eq_true typed, Node.type_of_parent (mem_sublocationsOf.1 member).2]
    rw [Snapshot.family, List.filter_cons, below, List.filter_cons, List.filter_nil]
  have places : ((world.nodesOf .location).flatMap world.family).filter
      (fun node => decide (node.type = type)) =
        (world.nodesOf .location).filter fun node => decide (node.type = type) := by
    rw [List.filter_flatMap, List.flatMap_congr family, ← List.filter_flatMap]
    simp
  rw [importOrder, castNodes, List.filter_append, List.filter_append, places, filter_nodesOf,
    filter_nodesOf, filter_nodesOf]
  cases type <;> simp at other ⊢

/-! ## The identities that nodes get -/

/-- The place of a node in the import order, counted from one. -/
def importOrdinal (world : Snapshot) (id : ElementId) : Nat :=
  (world.importOrder.map Node.id).idxOf id + 1

/-- The identity that a node has after an import of the entries of its world. -/
def renamed (world : Snapshot) (id : ElementId) : ElementId :=
  match world.node? id with
  | some node => .numbered (.node node.type) (world.importOrdinal id)
  | none => id

section Renamed

variable (valid : world.Valid)

include valid

theorem Valid.renamed_id {node : Node} (member : node ∈ world.nodes) :
    world.renamed node.id = .numbered (.node node.type) (world.importOrdinal node.id) := by
  rw [renamed, node?_of_mem valid.nodes_nodup member]

/-- A node is renamed by how many nodes come before it. -/
theorem Valid.renamed_of_eq_append {before after : List Node} {node : Node}
    (order : world.importOrder = before ++ node :: after) :
    world.renamed node.id = .numbered (.node node.type) (before.length + 1) := by
  have member : node ∈ world.nodes := valid.mem_importOrder.1 (order ▸ by simp)
  have distinct := valid.nodup_importOrder_ids
  rw [order, List.map_append, List.map_cons, List.nodup_append] at distinct
  have absent : node.id ∉ before.map Node.id := fun inside =>
    distinct.2.2 _ inside _ (List.mem_cons_self ..) rfl
  rw [valid.renamed_id member, importOrdinal, order, List.map_append, List.map_cons,
    List.idxOf_append_of_notMem absent, List.idxOf_cons_self, List.length_map, Nat.add_zero]

/-- Different nodes get different identities. -/
theorem Valid.renamed_inj {node other : Node} (member : node ∈ world.nodes)
    (otherMember : other ∈ world.nodes) (same : world.renamed node.id = world.renamed other.id) :
    node = other := by
  rw [valid.renamed_id member, valid.renamed_id otherMember] at same
  have places : world.importOrdinal node.id = world.importOrdinal other.id :=
    (ElementId.numbered_inj same).2
  have inside : node.id ∈ world.importOrder.map Node.id :=
    List.mem_map_of_mem (valid.mem_importOrder.2 member)
  have ids : node.id = other.id := (List.idxOf_inj inside).1 (Nat.succ.inj places)
  exact eq_of_id_eq valid.nodes_nodup member otherMember ids

end Renamed

/-! ## The placements of exported entries -/

/-- The entry of a character or an event. -/
def castEntry (world : Snapshot) (node : Node) : Entry :=
  if node.type = .character then world.characterEntry node else world.eventEntry node

/-- The items of an import of entries: the entries with their places. -/
def items (world : Snapshot) : List (Nat × Entry) :=
  (List.range world.entries.length).zip world.entries

theorem map_snd_items (world : Snapshot) : world.items.map Prod.snd = world.entries :=
  map_snd_zip_range world.entries

theorem map_castEntry (world : Snapshot) :
    world.castNodes.map world.castEntry =
      (world.nodesOf .character).map world.characterEntry ++
        (world.nodesOf .event).map world.eventEntry := by
  rw [castNodes, List.map_append]
  congr 1
  · refine List.map_congr_left fun node member => ?_
    rw [castEntry, if_pos (mem_nodesOf.1 member).2]
  · refine List.map_congr_left fun node member => ?_
    rw [castEntry, if_neg]
    rw [(mem_nodesOf.1 member).2]
    exact NodeType.noConfusion

theorem entries_eq (world : Snapshot) :
    world.entries =
      (world.nodesOf .location).map world.locationEntry ++
        world.castNodes.map world.castEntry := by
  rw [map_castEntry, entries, List.append_assoc]

theorem isCast_castEntry (world : Snapshot) (node : Node) : (world.castEntry node).IsCast := by
  unfold castEntry
  split
  · exact Or.inl rfl
  · exact Or.inr rfl

theorem category_castEntry (world : Snapshot) (node : Node) :
    (world.castEntry node).category = if node.type = .character then .character else .event := by
  unfold castEntry
  split <;> rfl

/-- The spawn table of an entry is that of its node, unless the node is a global event. -/
theorem spawnTable_castEntry {world : Snapshot} {node : Node} (bound : node.isGlobalEvent = false) :
    (world.castEntry node).spawnTable = world.spawnTable node.id := by
  unfold castEntry
  split
  · rfl
  · change world.eventSpawnTable node = _
    unfold eventSpawnTable
    split
    · rename_i kind
      rw [Node.isGlobalEvent, kind] at bound
      cases bound
    · rfl

/-- The spawn table of a global event has the word for everywhere only. -/
theorem spawnTable_castEntry_of_global {world : Snapshot} {node : Node}
    {timeFilter : List String} {chance : Float} (kind : node.kind = .event timeFilter true chance) :
    (world.castEntry node).spawnTable = .ofList [(anyLocation, chance)] := by
  have other : node.type ≠ .character := by
    rw [Node.type, kind]
    exact NodeType.noConfusion
  rw [castEntry, if_neg other, Entry.spawnTable, eventEntry, eventSpawnTable, kind]
  rfl

/-- The entry of a global event is for everywhere. -/
theorem isAnywhere_castEntry {world : Snapshot} {node : Node}
    (anywhere : node.isGlobalEvent = true) : (world.castEntry node).isAnywhere = true := by
  unfold Node.isGlobalEvent at anywhere
  split at anywhere
  · rename_i timeFilter isGlobal chance kind
    rw [anywhere] at kind
    have other : node.type ≠ .character := by
      rw [Node.type, kind]
      exact NodeType.noConfusion
    rw [Entry.isAnywhere, spawnTable_castEntry_of_global kind, category_castEntry, if_neg other]
    rfl
  · cases anywhere

theorem nodeType_castEntry {node : Node} (isCast : node ∈ world.castNodes) :
    (world.castEntry node).nodeType = node.type := by
  rw [Entry.nodeType, category_castEntry]
  rcases (mem_castNodes.1 isCast).2 with type | type <;> rw [type] <;> rfl

theorem map_snd_locationItems (world : Snapshot) :
    (locationItems world.items).map Prod.snd =
      (world.nodesOf .location).map world.locationEntry := by
  have filtered : (locationItems world.items).map Prod.snd =
      world.entries.filter fun entry => decide entry.IsLocation := by
    rw [← map_snd_items, List.filter_map]
    rfl
  rw [filtered, entries_eq, List.filter_append, List.filter_eq_self.2, List.filter_eq_nil_iff.2,
    List.append_nil]
  · intro entry member isLocation
    obtain ⟨node, -, rfl⟩ := List.mem_map.1 member
    exact (world.isCast_castEntry node).not_isLocation (of_decide_eq_true isLocation)
  · intro entry member
    obtain ⟨node, -, rfl⟩ := List.mem_map.1 member
    rfl

theorem map_snd_castItems (world : Snapshot) :
    (castItems world.items).map Prod.snd = world.castNodes.map world.castEntry := by
  have filtered : (castItems world.items).map Prod.snd =
      world.entries.filter fun entry => decide entry.IsCast := by
    rw [← map_snd_items, List.filter_map]
    rfl
  rw [filtered, entries_eq, List.filter_append, List.filter_eq_nil_iff.2, List.filter_eq_self.2,
    List.nil_append]
  · intro entry member
    obtain ⟨node, -, rfl⟩ := List.mem_map.1 member
    exact decide_eq_true (world.isCast_castEntry node)
  · intro entry member isCast
    obtain ⟨node, -, rfl⟩ := List.mem_map.1 member
    exact absurd rfl (of_decide_eq_true isCast).not_isLocation

/-- A placement is aligned with a node: it is that of its entry, and as many nodes come before it as
before the node in an order. -/
def Aligned (order : List Node) (entryOf : Node → Entry) (group : Node → List Node) (node : Node)
    (placed : Placement) : Prop :=
  placed.entry = entryOf node ∧
    ∃ before after, order = before ++ group node ++ after ∧ placed.before = before.length

/-- The placements of entries are aligned with their nodes, if each makes as many nodes as its group
has. -/
theorem aligned_placements (config : Config) (total : Nat) {entryOf : Node → Entry}
    {group : Node → List Node} {principals : List Node} {items : List (Nat × Entry)}
    (same : items.map Prod.snd = principals.map entryOf)
    (size : ∀ node ∈ principals, ∀ placed : Placement, placed.entry = entryOf node →
      (placed.nodes config.graph).length = (group node).length)
    (earlier later : List Node) :
    List.Forall₂ (Aligned (earlier ++ principals.flatMap group ++ later) entryOf group) principals
      (placements config total earlier.length items) := by
  induction principals generalizing items earlier with
  | nil =>
    rw [List.map_eq_nil_iff.1 same]
    exact .nil
  | cons node rest ih =>
    obtain ⟨item, others, rfl, entry, same⟩ := List.map_eq_cons_iff.1 same
    have first := size node (List.mem_cons_self ..)
      ⟨earlier.length, config.layout.gridPosition item.1 total, item.2⟩ entry
    have tail := ih same (fun other member => size other (List.mem_cons_of_mem _ member))
      (earlier ++ group node)
    rw [List.length_append, ← first] at tail
    rw [placements, List.flatMap_cons]
    refine .cons ⟨entry, earlier, rest.flatMap group ++ later, ?_, rfl⟩ ?_
    · simp only [List.append_assoc]
    · simpa only [List.append_assoc] using tail

end Snapshot

end StoryWorld

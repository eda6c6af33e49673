import StoryWorld.Proofs.Lore.CurrentOverrides
import StoryWorld.Proofs.Store.Consistency

/-!
# Overrides in a store

An override of a spawn edge goes by the name of a sublocation. A store keeps nodes and edges apart:
no change of a node looks at the overrides, and no change of an edge looks at the nodes again. So
it depends on the change whether overrides stay current (`Store.Current`). New nodes do no harm. A
new or changed edge must have current overrides itself (`Current.edgeBound_iff`). A sublocation may
lose its name, by another name or by being deleted, only if no edge needs the name or another
sublocation of the same location has it (`Consistent.current_nodeReplaced_iff`,
`Current.removed_iff`).

The last of these takes that spawn edges lead to locations (`Store.SpawnEnds`): a deletion takes
the edges of a location with it, and then nothing needs the names of the sublocations that go.
-/

set_option autoImplicit false

namespace StoryWorld

namespace Store

/-- A location has a sublocation of a name. -/
def HasRoom (store : Store) (location : ElementId) (name : String) : Prop :=
  ∃ room ∈ store.sublocationsOf location, room.name = name

/-- Every override greater than zero is named after a sublocation of the location. -/
def NamesRooms (store : Store) (location : ElementId) (overrides : Table String Float) : Prop :=
  ∀ override ∈ overrides.entries, 0 < override.2 → store.HasRoom location override.1

/-- The overrides of every edge are named after sublocations of its target. -/
def Current (store : Store) : Prop :=
  ∀ edge ∈ store.edges.values, store.NamesRooms edge.target edge.kind.overrides

/-- The name of a node can be spared: where it is a sublocation, and an edge has an override greater
than zero of its name, another sublocation of the same location has this name. -/
def Dispensable (store : Store) (id : ElementId) : Prop :=
  ∀ room ∈ store.nodes.get? id, ∀ parent ∈ room.parent, ∀ edge ∈ store.edges.values,
    edge.target = parent → ∀ override ∈ edge.kind.overrides.entries, override.1 = room.name →
      0 < override.2 → ∃ other ∈ store.sublocationsOf parent, other.id ≠ id ∧ other.name = room.name

instance (store : Store) (location : ElementId) (name : String) :
    Decidable (store.HasRoom location name) :=
  inferInstanceAs (Decidable (∃ room ∈ store.sublocationsOf location, _))

instance (store : Store) (location : ElementId) (overrides : Table String Float) :
    Decidable (store.NamesRooms location overrides) :=
  inferInstanceAs (Decidable (∀ override ∈ overrides.entries, _))

instance (store : Store) : Decidable store.Current :=
  inferInstanceAs (Decidable (∀ edge ∈ store.edges.values, _))

instance (store : Store) (id : ElementId) : Decidable (store.Dispensable id) :=
  inferInstanceAs (Decidable (∀ room ∈ store.nodes.get? id, _))

/-! ## Rooms -/

variable {store after : Store}

theorem hasRoom_iff {location : ElementId} {name : String} :
    store.HasRoom location name ↔
      ∃ id room, store.nodes.get? id = some room ∧ room.parent = some location ∧
        room.name = name := by
  constructor
  · rintro ⟨room, member, named⟩
    obtain ⟨inside, placed⟩ := List.mem_filter.1 member
    obtain ⟨id, found⟩ := Table.mem_values_iff.1 inside
    exact ⟨id, room, found, of_decide_eq_true placed, named⟩
  · rintro ⟨id, room, found, placed, named⟩
    exact ⟨room, List.mem_filter.2 ⟨Table.mem_values_iff.2 ⟨id, found⟩, decide_eq_true placed⟩,
      named⟩

/-- Overrides stay current where no edge comes and the rooms that edges need stay. -/
theorem Current.of_rooms (current : store.Current)
    (edges : ∀ edge ∈ after.edges.values, edge ∈ store.edges.values)
    (rooms : ∀ edge ∈ after.edges.values, ∀ override ∈ edge.kind.overrides.entries,
      0 < override.2 → store.HasRoom edge.target override.1 →
        after.HasRoom edge.target override.1) :
    after.Current := by
  intro edge member override listed positive
  exact rooms edge member override listed positive
    (current edge (edges edge member) override listed positive)

/-- A new node is a room at most more. -/
theorem Current.nodeAdded (current : store.Current) {id : ElementId} (node : Node)
    (numbering : Numbering) (fresh : id ∉ store.nodes.keys) :
    Current { store with nodes := store.nodes.insert id node, numbering := numbering } := by
  refine current.of_rooms (fun _ member => member) fun edge _ override _ _ has => ?_
  obtain ⟨other, room, found, placed, named⟩ := hasRoom_iff.1 has
  refine hasRoom_iff.2 ⟨other, room, ?_, placed, named⟩
  have differs : other ≠ id := by
    rintro rfl
    exact fresh (mem_keys_of_get? found)
  rw [Table.get?_insert, if_neg differs, found]

/-- An edge that is bound to an identity has current overrides just if they are named after rooms of
its target. -/
theorem Current.edgeBound_iff (current : store.Current) (id : ElementId) (edge : Edge)
    (numbering : Numbering) :
    Current { store with edges := store.edges.insert id edge, numbering := numbering } ↔
      store.NamesRooms edge.target edge.kind.overrides := by
  constructor
  · intro after
    refine after edge (Table.mem_values_iff.2 ⟨id, ?_⟩)
    rw [Table.get?_insert, if_pos rfl]
  · intro names other member
    obtain ⟨key, found⟩ := Table.mem_values_iff.1 member
    rw [Table.get?_insert] at found
    split at found
    · cases found
      exact names
    · exact current other (Table.mem_values_iff.2 ⟨key, found⟩)

section Consistent

variable (consistent : store.Consistent)

include consistent

/-- The other sublocations of a location stand under other identities. -/
theorem Consistent.exists_other_iff {id location : ElementId} {name : String} :
    (∃ other ∈ store.sublocationsOf location, other.id ≠ id ∧ other.name = name) ↔
      ∃ key room, key ≠ id ∧ store.nodes.get? key = some room ∧ room.parent = some location ∧
        room.name = name := by
  constructor
  · rintro ⟨room, member, differs, named⟩
    obtain ⟨inside, placed⟩ := List.mem_filter.1 member
    obtain ⟨key, found⟩ := Table.mem_values_iff.1 inside
    exact ⟨key, room, consistent.node_id key room found ▸ differs, found,
      of_decide_eq_true placed, named⟩
  · rintro ⟨key, room, differs, found, placed, named⟩
    refine ⟨room, List.mem_filter.2 ⟨Table.mem_values_iff.2 ⟨key, found⟩, decide_eq_true placed⟩,
      ?_, named⟩
    rw [consistent.node_id key room found]
    exact differs

/-- Overrides stay current when a node is replaced just if it keeps its name or its name can be
spared. -/
theorem Consistent.current_nodeReplaced_iff (current : store.Current) {id : ElementId}
    {old new : Node} (found : store.nodes.get? id = some old) (placed : new.parent = old.parent) :
    Current { store with nodes := store.nodes.insert id new } ↔
      new.name = old.name ∨ store.Dispensable id := by
  have rooms : ∀ location name,
      HasRoom { store with nodes := store.nodes.insert id new } location name ↔
        (∃ other ∈ store.sublocationsOf location, other.id ≠ id ∧ other.name = name) ∨
          old.parent = some location ∧ new.name = name := by
    intro location name
    rw [consistent.exists_other_iff, hasRoom_iff]
    constructor
    · rintro ⟨key, room, here, inside, named⟩
      rw [Table.get?_insert] at here
      split at here
      · cases here
        exact Or.inr ⟨placed ▸ inside, named⟩
      · rename_i differs
        exact Or.inl ⟨key, room, differs, here, inside, named⟩
    · rintro (⟨key, room, differs, here, inside, named⟩ | ⟨inside, named⟩)
      · exact ⟨key, room, by rw [Table.get?_insert, if_neg differs, here], inside, named⟩
      · exact ⟨id, new, by rw [Table.get?_insert, if_pos rfl], placed ▸ inside, named⟩
  constructor
  · intro after
    refine or_iff_not_imp_left.2 fun differs => ?_
    intro room isRoom parent isParent edge member toThere override listed named positive
    have same : room = old := Option.some.inj (isRoom.symm.trans found)
    subst same
    subst toThere
    rcases (rooms _ _).1 (after edge member override listed positive) with other | ⟨-, again⟩
    · rw [← named]
      exact other
    · exact absurd (again.trans named) differs
  · intro spared
    refine current.of_rooms (fun _ member => member) ?_
    intro edge member override listed positive has
    refine (rooms _ _).2 ?_
    obtain ⟨key, room, here, inside, named⟩ := hasRoom_iff.1 has
    by_cases same : key = id
    · subst same
      rw [found] at here
      cases here
      rcases spared with kept | dispensable
      · exact Or.inr ⟨inside, kept.trans named⟩
      · obtain ⟨other, isOther, differs, again⟩ := dispensable old found _ inside edge member rfl
          override listed named.symm positive
        exact Or.inl ⟨other, isOther, differs, again.trans named⟩
    · exact Or.inl (consistent.exists_other_iff.2 ⟨key, room, same, here, inside, named⟩)

end Consistent

/-! ## Nodes that keep their kind -/

/-- The node with an identity is there afterwards, and is of the same kind. -/
def KeepsKind (store after : Store) (id : ElementId) : Prop :=
  ∀ node, store.nodes.get? id = some node →
    ∃ copy, after.nodes.get? id = some copy ∧ copy.type = node.type

theorem keepsKind_of_nodes (same : after.nodes = store.nodes) (id : ElementId) :
    KeepsKind store after id :=
  fun node found => ⟨node, same ▸ found, rfl⟩

/-- A node that is bound to a new identity leaves every other node as it is. -/
theorem keepsKind_nodeAdded {id : ElementId} (node : Node) (numbering : Numbering)
    (fresh : id ∉ store.nodes.keys) (other : ElementId) :
    KeepsKind store
      { store with nodes := store.nodes.insert id node, numbering := numbering } other := by
  intro stored found
  have differs : other ≠ id := by
    rintro rfl
    exact fresh (mem_keys_of_get? found)
  exact ⟨stored, by rw [Table.get?_insert, if_neg differs, found], rfl⟩

theorem keepsKind_nodeReplaced {id : ElementId} {old new : Node}
    (found : store.nodes.get? id = some old) (typed : new.type = old.type) (other : ElementId) :
    KeepsKind store { store with nodes := store.nodes.insert id new } other := by
  intro stored here
  by_cases same : other = id
  · subst same
    rw [found] at here
    cases here
    exact ⟨new, by rw [Table.get?_insert, if_pos rfl], typed⟩
  · exact ⟨stored, by rw [Table.get?_insert, if_neg same, here], rfl⟩

/-- The edges that a deletion leaves are edges of before, and their ends keep their kinds. -/
theorem Sound.keepsKind_without (sound : store.Sound) {id : ElementId} {gone : Removal}
    (found : store.removal id = .ok gone) {edge : Edge}
    (member : edge ∈ (store.without gone).edges.values) :
    edge ∈ store.edges.values ∧ KeepsKind store (store.without gone) edge.source ∧
      KeepsKind store (store.without gone) edge.target := by
  have keeps : ∀ other, other ∉ gone.nodes → KeepsKind store (store.without gone) other :=
    fun other stays node here => ⟨node, get?_nodes_without.2 ⟨here, stays⟩, rfl⟩
  obtain ⟨key, here⟩ := Table.mem_values_iff.1 member
  obtain ⟨isEdge, stays⟩ := get?_edges_without.1 here
  refine ⟨Table.mem_values_iff.2 ⟨key, isEdge⟩, ?_⟩
  exact ((sound.removal_closed found).1 key edge isEdge stays).imp (keeps _) (keeps _)

/-! ## Ends of spawn edges -/

/-- Spawn edges lead from nodes that are no sublocations to locations. -/
def SpawnEnds (store : Store) : Prop :=
  ∀ edge ∈ store.edges.values, edge.type = .spawn →
    (∃ source, store.nodes.get? edge.source = some source ∧ source.type ≠ .sublocation) ∧
      store.HoldsLocation edge.target

/-- Ends stay right where no edge comes and the ends of edges keep their kinds. -/
theorem SpawnEnds.of_keepsKind (ends : store.SpawnEnds)
    (edges : ∀ edge ∈ after.edges.values, edge ∈ store.edges.values)
    (kinds : ∀ edge ∈ after.edges.values,
      KeepsKind store after edge.source ∧ KeepsKind store after edge.target) :
    after.SpawnEnds := by
  intro edge member own
  obtain ⟨⟨source, sourceFound, sourceTyped⟩, target, targetFound, targetTyped⟩ :=
    ends edge (edges edge member) own
  obtain ⟨first, firstFound, firstTyped⟩ := (kinds edge member).1 source sourceFound
  obtain ⟨second, secondFound, secondTyped⟩ := (kinds edge member).2 target targetFound
  exact ⟨⟨first, firstFound, firstTyped ▸ sourceTyped⟩, second, secondFound,
    secondTyped.trans targetTyped⟩

theorem SpawnEnds.nodeAdded (ends : store.SpawnEnds) {id : ElementId} (node : Node)
    (numbering : Numbering) (fresh : id ∉ store.nodes.keys) :
    SpawnEnds { store with nodes := store.nodes.insert id node, numbering := numbering } := by
  refine ends.of_keepsKind (fun _ member => member) fun edge _ => ?_
  have keeps := keepsKind_nodeAdded node numbering fresh
  exact ⟨keeps edge.source, keeps edge.target⟩

theorem SpawnEnds.nodeReplaced (ends : store.SpawnEnds) {id : ElementId} {old new : Node}
    (found : store.nodes.get? id = some old) (typed : new.type = old.type) :
    SpawnEnds { store with nodes := store.nodes.insert id new } := by
  refine ends.of_keepsKind (fun _ member => member) fun edge _ => ?_
  have keeps := keepsKind_nodeReplaced found typed
  exact ⟨keeps edge.source, keeps edge.target⟩

theorem SpawnEnds.edgeBound (ends : store.SpawnEnds) (id : ElementId) (edge : Edge)
    (numbering : Numbering)
    (own : edge.type = .spawn →
      (∃ source, store.nodes.get? edge.source = some source ∧ source.type ≠ .sublocation) ∧
        store.HoldsLocation edge.target) :
    SpawnEnds { store with edges := store.edges.insert id edge, numbering := numbering } := by
  intro other member typed
  obtain ⟨key, found⟩ := Table.mem_values_iff.1 member
  rw [Table.get?_insert] at found
  split at found
  · cases found
    exact own typed
  · exact ends other (Table.mem_values_iff.2 ⟨key, found⟩) typed

/-- Only spawn edges have overrides. -/
theorem type_of_override {edge : Edge} {override : String × Float}
    (listed : override ∈ edge.kind.overrides.entries) : edge.type = .spawn := by
  by_contra other
  rw [EdgeKind.overrides_of_type_ne other] at listed
  cases listed

/-- A patch leaves the overrides of an edge alone or sets them. -/
theorem overrides_onKind_cases (patch : EdgePatch) (kind : EdgeKind) :
    (patch.onKind kind).overrides = kind.overrides ∨
      patch.sublocationProbabilities = some (patch.onKind kind).overrides := by
  cases kind with
  | spawn probability overrides =>
    rw [EdgePatch.onKind, EdgeKind.overrides, EdgeKind.overrides]
    cases patch.sublocationProbabilities with
    | none => exact Or.inl rfl
    | some others => exact Or.inr rfl
  | adjacent | knows => exact Or.inl rfl

/-! ## Deletion -/

section Deletion

variable (sound : store.Sound) {id : ElementId} {gone : Removal}
  (found : store.removal id = .ok gone)

include sound found

theorem SpawnEnds.removed (ends : store.SpawnEnds) : SpawnEnds (store.without gone) :=
  ends.of_keepsKind (fun _ member => (sound.keepsKind_without found member).1)
    fun _ member => (sound.keepsKind_without found member).2

/-- Overrides stay current when an element is deleted just if its name can be spared. -/
theorem Current.removed_iff (current : store.Current) (ends : store.SpawnEnds) :
    Current (store.without gone) ↔ store.Dispensable id := by
  have consistent := sound.consistent
  constructor
  · intro after room isRoom parent isParent edge member toThere override listed named positive
    subst toThere
    have isNode : id ∈ store.nodes.keys := mem_keys_of_get? isRoom
    rcases removal_cases found with ⟨isEdge, -⟩ | ⟨-, nodes, edges⟩
    · exact absurd isEdge (consistent.disjoint id isNode)
    have doomed : id ∈ gone.nodes := (nodes id).2 ⟨isNode, List.mem_cons_self ..⟩
    obtain ⟨key, isEdge⟩ := Table.mem_values_iff.1 member
    have stays : key ∉ gone.edges := by
      intro taken
      -- A deleted sublocation takes sublocations only, and the ends of the edge are none.
      have rooms : ∀ other node, other ∈ store.doomedNodes id →
          store.nodes.get? other = some node → node.type = .sublocation := by
        intro other node doomed here
        rcases (consistent.mem_doomedNodes_iff here).1 doomed with rfl | inside
        · rw [Option.mem_def.1 isRoom] at here
          cases here
          exact Node.type_of_parent isParent
        · exact Node.type_of_parent inside
      obtain ⟨⟨source, sourceFound, notRoom⟩, target, targetFound, isLocation⟩ :=
        ends edge member (type_of_override listed)
      rcases (consistent.mem_doomedEdges_iff isEdge).1 ((edges key).1 taken).2 with
        fromHere | toHere
      · exact notRoom (rooms _ source fromHere sourceFound)
      · have isRoom := rooms _ target toHere targetFound
        rw [isLocation] at isRoom
        cases isRoom
    have remains : edge ∈ (store.without gone).edges.values :=
      Table.mem_values_iff.2 ⟨key, get?_edges_without.2 ⟨isEdge, stays⟩⟩
    obtain ⟨other, sibling, here, placed, again⟩ :=
      hasRoom_iff.1 (after edge remains override listed positive)
    obtain ⟨here, spared⟩ := get?_nodes_without.1 here
    refine consistent.exists_other_iff.2 ⟨other, sibling, ?_, here, placed, again.trans named⟩
    rintro rfl
    exact spared doomed
  · intro dispensable edge member override listed positive
    obtain ⟨key, here⟩ := Table.mem_values_iff.1 member
    obtain ⟨isEdge, stays⟩ := get?_edges_without.1 here
    have isStored : edge ∈ store.edges.values := Table.mem_values_iff.2 ⟨key, isEdge⟩
    have toStays := ((sound.removal_closed found).1 key edge isEdge stays).2
    -- The target stays, so of its rooms at most the deleted node itself goes.
    have alone : ∀ other room, store.nodes.get? other = some room →
        room.parent = some edge.target → other ∈ gone.nodes → other = id := by
      intro other room here placed taken
      rcases removal_cases found with ⟨-, none⟩ | ⟨isNode, nodes, -⟩
      · rw [none] at taken
        cases taken
      · have doomed := ((nodes other).1 taken).2
        refine ((consistent.mem_doomedNodes_iff here).1 doomed).resolve_right fun inside => ?_
        have same : edge.target = id := Option.some.inj (placed.symm.trans inside)
        exact toStays (same ▸ (nodes id).2 ⟨isNode, List.mem_cons_self ..⟩)
    obtain ⟨other, room, here, placed, named⟩ :=
      hasRoom_iff.1 (current edge isStored override listed positive)
    by_cases taken : other ∈ gone.nodes
    · have same := alone other room here placed taken
      subst same
      obtain ⟨key, sibling, differs, here, placed, again⟩ := consistent.exists_other_iff.1
        (dispensable room here _ placed edge isStored rfl override listed named.symm positive)
      refine hasRoom_iff.2 ⟨key, sibling, get?_nodes_without.2 ⟨here, ?_⟩, placed,
        again.trans named⟩
      exact fun taken => differs (alone key sibling here placed taken)
    · exact hasRoom_iff.2 ⟨other, room, get?_nodes_without.2 ⟨here, taken⟩, placed, named⟩

end Deletion

end Store

end StoryWorld

import StoryWorld.Proofs.Lore.Linkage
import StoryWorld.Proofs.Store.Consistency

/-!
# What a change of a node shows

The first keyword is all that the rest of a lorebook has of a node. When a node is replaced by one
of the same identity, kind, parent and first keyword, everything else may be different, and yet the
entries come in the same order and those of other nodes are the same
(`sameEntriesBut_of_linkedAlike`). Only the entry of a location shows more of other nodes: it lists
the names and images of its sublocations.

The changes of a node that a store offers replace it in this way, unless a patch gives it another
first keyword. So whoever patches, renames or writes the texts of a node changes its own entry at
most, or that of its location.
-/

set_option autoImplicit false

namespace StoryWorld

/-- The entry about the identity, if there is one, shows what is in the node: it is the entry of the
node itself, or that of the location in which it lies. -/
def Node.ShownAt (node : Node) (id : ElementId) : Prop := id = node.id ∨ node.parent = some id

/-- A node is renumbered to itself where nothing is renamed. -/
theorem renumbered_self (node : Node) : node.Renumbered id node := by
  obtain ⟨own, name, keywords, content, contentShort, images, filters, position, kind⟩ := node
  cases kind <;> rfl

namespace Snapshot

/-- Two worlds have equally many entries, about the same nodes in the same order, and the entries
are the same but for those about certain nodes. -/
structure SameEntriesBut (touched : ElementId → Prop) (world other : Snapshot) : Prop where
  length_eq : other.entries.length = world.entries.length
  subjects_eq : other.subjects.map Node.id = world.subjects.map Node.id
  entries_eq : ∀ (place : Nat) (subject : Node), world.subjects[place]? = some subject →
    ¬ touched subject.id → other.entries[place]? = world.entries[place]?

theorem SameEntriesBut.refl (touched : ElementId → Prop) (world : Snapshot) :
    SameEntriesBut touched world world := ⟨rfl, rfl, fun _ _ _ _ => rfl⟩

theorem SameEntriesBut.mono {touched more : ElementId → Prop} {world other : Snapshot}
    (same : SameEntriesBut touched world other) (covers : ∀ id, touched id → more id) :
    SameEntriesBut more world other where
  length_eq := same.length_eq
  subjects_eq := same.subjects_eq
  entries_eq := fun place subject here untouched =>
    same.entries_eq place subject here fun shown => untouched (covers _ shown)

/-- Entries are compared at the nodes that they are about. -/
theorem SameEntriesBut.of_subjects {touched : ElementId → Prop} {world other : Snapshot}
    {change : Node → Node} (subjects : other.subjects = world.subjects.map change)
    (own : ∀ node ∈ world.subjects, (change node).id = node.id)
    (same : ∀ node ∈ world.subjects, ¬ touched node.id →
      other.entryOf (change node) = world.entryOf node) :
    SameEntriesBut touched world other where
  length_eq := by
    rw [entries_eq_map_subjects, entries_eq_map_subjects, subjects]
    simp only [List.length_map]
  subjects_eq := by
    rw [subjects, List.map_map]
    exact List.map_congr_left own
  entries_eq := by
    intro place subject here untouched
    rw [entries_eq_map_subjects, entries_eq_map_subjects, subjects]
    simp only [List.getElem?_map, here, Option.map_some]
    rw [same subject (List.mem_of_getElem? here) untouched]

/-! ## One node in place of another -/

/-- The world with another node in place of the one that has its identity. -/
def replacing (world : Snapshot) (new : Node) : Snapshot :=
  { world with nodes := world.nodes.map fun node => if node.id = new.id then new else node }

section Replacing

variable {world : Snapshot} {node new : Node} (valid : world.Valid) (member : node ∈ world.nodes)

include valid member

/-- Nothing but the node itself is replaced. -/
theorem replaced_cases (own : new.id = node.id) {other : Node} (isOther : other ∈ world.nodes) :
    (other = node ∧ (if other.id = new.id then new else other) = new) ∨
      (other.id ≠ node.id ∧ (if other.id = new.id then new else other) = other) := by
  by_cases same : other.id = node.id
  · rw [if_pos (same.trans own.symm)]
    exact Or.inl ⟨eq_of_id_eq valid.nodes_nodup isOther member same, rfl⟩
  · rw [if_neg (own ▸ same)]
    exact Or.inr ⟨same, rfl⟩

variable (alike : node.LinkedAlike id new)

include alike

theorem linkedAlike_replacing : LinkedAlike id world (world.replacing new) where
  nodes := by
    refine List.forall₂_map_right_iff.2 (List.forall₂_same.2 fun other isOther => ?_)
    rcases replaced_cases valid member alike.id isOther with ⟨rfl, same⟩ | ⟨-, same⟩
    · rw [same]
      exact alike
    · rw [same]
      exact (renumbered_self other).linkedAlike
  edges := List.forall₂_same.2 fun _ _ => ⟨rfl, rfl, rfl⟩
  told := fun _ _ _ _ same => same

theorem nodesOf_replacing (type : NodeType) :
    (world.replacing new).nodesOf type =
      (world.nodesOf type).map fun node => if node.id = new.id then new else node := by
  rw [nodesOf, replacing, List.filter_map, nodesOf]
  congr 1
  refine List.filter_congr fun other isOther => ?_
  rcases replaced_cases valid member alike.id isOther with ⟨rfl, same⟩ | ⟨-, same⟩
  · rw [Function.comp_apply, same, alike.type]
  · rw [Function.comp_apply, same]

/-- A location in which the node does not lie keeps its sublocations. -/
theorem sublocationsOf_replacing {place : ElementId} (elsewhere : node.parent ≠ some place) :
    (world.replacing new).sublocationsOf place = world.sublocationsOf place := by
  have placed : new.parent = node.parent := alike.parent.trans Option.map_id'
  rw [sublocationsOf, replacing, List.filter_map, sublocationsOf]
  have kept : (world.nodes.filter
      ((fun node => decide (node.parent = some place)) ∘
        fun node => if node.id = new.id then new else node)) =
      world.nodes.filter fun node => decide (node.parent = some place) := by
    refine List.filter_congr fun other isOther => ?_
    rcases replaced_cases valid member alike.id isOther with ⟨rfl, same⟩ | ⟨-, same⟩
    · rw [Function.comp_apply, same, placed]
    · rw [Function.comp_apply, same]
  rw [kept]
  refine (List.map_congr_left fun other inside => ?_).trans (List.map_id _)
  obtain ⟨isOther, inPlace⟩ := mem_sublocationsOf.1 inside
  rcases replaced_cases valid member alike.id isOther with ⟨rfl, -⟩ | ⟨-, same⟩
  · exact absurd inPlace elsewhere
  · exact same

/-- A replaced node is shown at itself and at its location only. -/
theorem sameEntriesBut_of_linkedAlike :
    SameEntriesBut node.ShownAt world (world.replacing new) := by
  have linked := linkedAlike_replacing valid member alike
  have subjects : (world.replacing new).subjects =
      world.subjects.map fun node => if node.id = new.id then new else node := by
    simp only [subjects, castNodes, List.map_append, nodesOf_replacing valid member alike]
  refine .of_subjects subjects (fun other isSubject => ?_) fun other isSubject hidden => ?_
  · have isOther := (mem_subjects.1 isSubject).1
    rcases replaced_cases valid member alike.id isOther with ⟨rfl, same⟩ | ⟨-, same⟩
    · rw [same, alike.id]
      rfl
    · rw [same]
  · have isOther := (mem_subjects.1 isSubject).1
    obtain ⟨differs, elsewhere⟩ := not_or.1 hidden
    rcases replaced_cases valid member alike.id isOther with ⟨rfl, -⟩ | ⟨-, same⟩
    · exact absurd rfl differs
    · rw [same]
      refine linked.entryOf_eq isOther (renumbered_self other) ?_
      change (world.replacing new).sublocationTable other.id = world.sublocationTable other.id
      rw [sublocationTable, sublocationsOf_replacing valid member alike elsewhere,
        sublocationTable]

end Replacing

end Snapshot

/-! ## Changes of stored nodes -/

namespace Store

variable {store : Store}

/-- A node that is bound to the identity of a stored one takes its place in the snapshot. -/
theorem Consistent.snapshot_insert (consistent : store.Consistent) {id : ElementId}
    {old new : Node} (found : store.nodes.get? id = some old) (own : new.id = old.id) :
    Store.snapshot { store with nodes := store.nodes.insert id new } =
      store.snapshot.replacing new := by
  have isNew : new.id = id := own.trans (consistent.node_id id old found)
  have values : (store.nodes.insert id new).values =
      store.nodes.values.map fun node => if node.id = new.id then new else node := by
    rw [Table.insert, dif_pos (mem_keys_of_get? found), Table.adjust, Table.values, Table.values,
      Table.mapValues, List.map_map, List.map_map]
    refine List.map_congr_left fun entry member => ?_
    have stored := consistent.node_id entry.1 entry.2 (Table.get?_eq_some_iff.2 member)
    simp only [Function.comp_apply, stored, isNew]
  rw [snapshot, values]
  rfl

/-- The operation changes a node, and a patch leaves its first keyword as it is. -/
def Retouches (store : Store) (id : ElementId) : Operation → Prop
  | .patchNode other patch => other = id ∧ ∀ node ∈ store.nodes.get? id,
      (patch.onNode node).firstKeyword = node.firstKeyword
  | .rename other _ | .setBody other _ _ => other = id
  | _ => False

/-- A store afterwards is the same, or has another node in place of one that is linked as it was. -/
def Retouched (store : Store) (id : ElementId) (after : Store) : Prop :=
  after = store ∨ ∃ old new, store.nodes.get? id = some old ∧
    old.LinkedAlike (fun id => id) new ∧
      after = { store with nodes := store.nodes.insert id new }

theorem Retouches.retouched {id : ElementId} {operation : Operation}
    (retouches : store.Retouches id operation) :
    store.Retouched id (store.step operation).1 := by
  cases operation with
  | patchNode other patch =>
    obtain ⟨rfl, keyed⟩ := retouches
    refine settle_invariant (Or.inl rfl) fun _ made => ?_
    obtain ⟨old, found, rfl⟩ := patchNode_eq_ok made
    have parent := (patch.parent_onNode old).trans Option.map_id'.symm
    exact Or.inr ⟨old, patch.onNode old, found,
      ⟨rfl, patch.type_onNode old, parent, keyed old found⟩, rfl⟩
  | rename other name =>
    cases retouches
    refine settle_invariant (Or.inl rfl) fun _ made => ?_
    obtain ⟨old, found, rfl⟩ := rename_eq_ok made
    exact Or.inr ⟨old, renamed old name, found,
      ⟨rfl, rfl, Option.map_id'.symm, rfl⟩, rfl⟩
  | setBody other field body =>
    cases retouches
    refine settle_invariant (Or.inl rfl) fun _ made => ?_
    obtain ⟨old, found, rfl⟩ := setBody_eq_ok made
    refine Or.inr ⟨old, withBody old field body, found, ?_, rfl⟩
    cases field <;> exact ⟨rfl, rfl, Option.map_id'.symm, rfl⟩
  | _ => exact retouches.elim

/-- An operation of this kind shows only where the stored node does. -/
theorem Retouches.sameEntriesBut (consistent : store.Consistent) {id : ElementId}
    {operation : Operation} (retouches : store.Retouches id operation) :
    Snapshot.SameEntriesBut (fun other => ∃ node ∈ store.nodes.get? id, node.ShownAt other)
      store.snapshot (store.step operation).1.snapshot := by
  rcases retouches.retouched with same | ⟨old, new, found, alike, same⟩
  · rw [same]
    exact .refl _ _
  · rw [same, consistent.snapshot_insert found alike.id]
    have member : old ∈ store.snapshot.nodes := Table.mem_values_iff.2 ⟨id, found⟩
    exact (Snapshot.sameEntriesBut_of_linkedAlike consistent.valid_snapshot member alike).mono
      fun other shown => ⟨old, found, shown⟩

end Store

/-- **The first keyword is the only visible link.** When a node of a valid world is replaced by one
of the same identity, kind, parent and first keyword, the lorebook has as many entries, about the
same nodes in the same order, and no other entry changes than that of the node or of the location in
which it lies. So in every store that an editing session reaches, no patch that keeps the first
keyword, no new name and no text of a node changes the entry of another node, except for that of its
location. -/
theorem firstKeyword_links :
    (∀ (world : Snapshot) (node new : Node), world.validate = .ok () → node ∈ world.nodes →
      new.id = node.id → new.type = node.type → new.parent = node.parent →
      new.firstKeyword = node.firstKeyword →
      Snapshot.SameEntriesBut node.ShownAt world (world.replacing new)) ∧
    ∀ (settings : GraphSettings) (operations : List Operation) (id : ElementId)
      (operation : Operation),
      let store := (Store.empty settings).run operations
      store.Retouches id operation →
        Snapshot.SameEntriesBut (fun other => ∃ node ∈ store.nodes.get? id, node.ShownAt other)
          store.snapshot (store.step operation).1.snapshot := by
  constructor
  · intro world node new accepted member own typed placed keyed
    have alike : node.LinkedAlike id new :=
      ⟨own, typed, placed.trans Option.map_id'.symm, keyed⟩
    exact Snapshot.sameEntriesBut_of_linkedAlike (Snapshot.validate_eq_ok_iff.1 accepted) member
      alike
  · intro settings operations id operation store retouches
    have sound := (Store.Sound.empty settings).run operations
    exact retouches.sameEntriesBut sound.consistent

/-- The tavern of the harbour, and an inn in its place. -/
def tavern : Node :=
  { Node.blank ⟨"tavern"⟩ "Tavern" (.sublocation ⟨"town"⟩) with position := ⟨7, 9⟩ }

def inn : Node := { tavern with name := "Inn", content := "Closed." }

/-- Jack is also called a sailor. -/
def sailorJack : Operation := .patchNode ⟨"jack"⟩ { keywords := some ["Jack", "sailor"] }

theorem harbour_links :
    (harbour.validate = .ok () ∧ tavern ∈ harbour.nodes ∧
      Snapshot.SameEntriesBut tavern.ShownAt harbour (harbour.replacing inn)) ∧
    let store := (Store.empty {}).run [.load harbour]
    store.Retouches ⟨"jack"⟩ sailorJack ∧
      Snapshot.SameEntriesBut
        (fun other => ∃ node ∈ store.nodes.get? ⟨"jack"⟩, node.ShownAt other)
        store.snapshot (store.step sailorJack).1.snapshot := by
  have accepted : harbour.validate = .ok () := by decide +kernel
  have member : tavern ∈ harbour.nodes := by decide +kernel
  refine ⟨⟨accepted, member, ?_⟩, ?_⟩
  · exact firstKeyword_links.1 harbour tavern inn accepted member rfl rfl rfl rfl
  · have retouches : ((Store.empty {}).run [.load harbour]).Retouches ⟨"jack"⟩ sailorJack :=
      ⟨rfl, by decide +kernel⟩
    exact ⟨retouches, firstKeyword_links.2 {} [.load harbour] ⟨"jack"⟩ sailorJack retouches⟩

end StoryWorld

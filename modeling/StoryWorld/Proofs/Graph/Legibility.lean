import StoryWorld.Graph.Reading
import StoryWorld.Proofs.Json.Reading

/-!
# Worlds that have been read

A world that has been read from a JSON value is legible (`Snapshot.legible_of_read`): all its
places, probabilities and chances are finite, and no condition of its filters stands under the key
of the required tags.
-/

set_option autoImplicit false

namespace StoryWorld

open Json

/-- Places that have numbers. -/
def Position.Legible (position : Position) : Prop :=
  position.x.isFinite = true ∧ position.y.isFinite = true

/-- Kinds of nodes whose chance has a number. -/
def NodeKind.Legible : NodeKind → Prop
  | .event _ _ chance => chance.isFinite = true
  | _ => True

/-- Kinds of edges whose probabilities have numbers. -/
def EdgeKind.Legible : EdgeKind → Prop
  | .spawn probability overrides =>
    probability.isFinite = true ∧ ∀ entry ∈ overrides.entries, entry.2.isFinite = true
  | _ => True

/-- Worlds that lose nothing when they are written as JSON values. -/
structure Snapshot.Legible (world : Snapshot) : Prop where
  conditions : ∀ node ∈ world.nodes, Filters.requiresAnyKey ∉ node.filters.other.keys
  positions : ∀ node ∈ world.nodes, node.position.Legible
  nodes : ∀ node ∈ world.nodes, node.kind.Legible
  edges : ∀ edge ∈ world.edges, edge.kind.Legible

/-! ## Nodes -/

theorem conditions_of_read {json : Json} {filters : Filters}
    (read : Filters.read json = .ok filters) :
    Filters.requiresAnyKey ∉ filters.other.keys := by
  unfold Filters.read at read
  split at read
  · obtain ⟨requiresAny, -, same⟩ := bind_eq_ok_iff.1 read
    cases same
    intro member
    obtain ⟨entry, inside, same⟩ := List.mem_map.1 (Table.mem_keys_ofList.1 member)
    exact of_decide_eq_true (List.mem_filter.1 inside).2 same
  · cases read

theorem Position.legible_of_read {json : Json} {position : Position}
    (read : Position.read json = .ok position) : position.Legible := by
  obtain ⟨find, built⟩ := Fields.exists_build read
  simp only [Position.fields, Fields.build_seq_iff, Fields.build_map_iff] at built
  obtain ⟨_, ⟨x, xBuilt, rfl⟩, y, yBuilt, rfl⟩ := built
  obtain ⟨_, xRead⟩ := Fields.build_of_required xBuilt
  obtain ⟨_, yRead⟩ := Fields.build_of_required yBuilt
  exact ⟨Reader.isFinite_of_double xRead, Reader.isFinite_of_double yRead⟩

theorem legible_of_commonFields {find : String → Option Json} {common : NodeKind → Node}
    (built : Node.fields.build find = .ok common) (kind : NodeKind) :
    Filters.requiresAnyKey ∉ (common kind).filters.other.keys ∧
      (common kind).position.Legible ∧ (common kind).kind = kind := by
  simp only [Node.fields, Fields.build_seq_iff, Fields.build_map_iff] at built
  obtain ⟨_, ⟨_, ⟨_, ⟨_, ⟨_, ⟨_, ⟨_, ⟨id, -, rfl⟩, name, -, rfl⟩, keywords, -, rfl⟩, content, -,
    rfl⟩, contentShort, -, rfl⟩, images, -, rfl⟩, filters, filtersBuilt, rfl⟩, position,
    positionBuilt, rfl⟩ := built
  refine ⟨?_, ?_, rfl⟩
  · rcases Fields.build_of_withDefault filtersBuilt with rfl | ⟨json, read⟩
    · exact List.not_mem_nil
    · exact conditions_of_read read
  · rcases Fields.build_of_withDefault positionBuilt with rfl | ⟨json, read⟩
    · change (0 : Float).isFinite = true ∧ (0 : Float).isFinite = true
      decide
    · exact Position.legible_of_read read

theorem NodeKind.legible_of_build {type : NodeType} {find : String → Option Json} {kind : NodeKind}
    (built : (NodeKind.fields type).build find = .ok kind) : kind.Legible := by
  cases type with
  | location =>
    cases built
    trivial
  | character =>
    obtain ⟨disabledFor, -, rfl⟩ := Fields.build_map_iff.1 built
    trivial
  | sublocation =>
    obtain ⟨parent, -, rfl⟩ := Fields.build_map_iff.1 built
    trivial
  | event =>
    simp only [NodeKind.fields, NodeKind.eventFields, Fields.build_seq_iff,
      Fields.build_map_iff] at built
    obtain ⟨_, ⟨_, ⟨timeFilter, -, rfl⟩, isGlobal, -, rfl⟩, chance, chanceBuilt, rfl⟩ := built
    rcases Fields.build_of_withDefault chanceBuilt with rfl | ⟨json, read⟩
    · change (0 : Float).isFinite = true
      decide
    · exact Reader.isFinite_of_double read

theorem NodeKind.legible_of_readMembers {members : List (String × Json)} {kind : NodeKind}
    (read : NodeKind.readMembers members = .ok kind) : kind.Legible := by
  unfold NodeKind.readMembers at read
  split at read
  · cases read
  · obtain ⟨type, -, read⟩ := bind_eq_ok_iff.1 read
    obtain ⟨find, built⟩ := Fields.exists_build_of_readMembers read
    exact legible_of_build built

theorem Node.legible_of_read {json : Json} {node : Node} (read : Node.read json = .ok node) :
    Filters.requiresAnyKey ∉ node.filters.other.keys ∧ node.position.Legible ∧
      node.kind.Legible := by
  unfold Node.read at read
  split at read
  · obtain ⟨common, commonRead, read⟩ := bind_eq_ok_iff.1 read
    obtain ⟨kind, kindRead, same⟩ := bind_eq_ok_iff.1 read
    cases same
    obtain ⟨find, built⟩ := Fields.exists_build_of_readMembers commonRead
    obtain ⟨conditions, position, kindSame⟩ := legible_of_commonFields built kind
    refine ⟨conditions, position, ?_⟩
    rw [kindSame]
    exact NodeKind.legible_of_readMembers kindRead
  · cases read

/-! ## Edges -/

theorem EdgeKind.legible_of_build {type : EdgeType} {find : String → Option Json} {kind : EdgeKind}
    (built : (EdgeKind.fields type).build find = .ok kind) : kind.Legible := by
  cases type with
  | adjacent =>
    cases built
    trivial
  | knows =>
    simp only [EdgeKind.fields, EdgeKind.knowsFields, Fields.build_seq_iff,
      Fields.build_map_iff] at built
    obtain ⟨_, ⟨_, ⟨relationship, -, rfl⟩, sourceThinks, -, rfl⟩, targetThinks, -, rfl⟩ := built
    trivial
  | spawn =>
    simp only [EdgeKind.fields, EdgeKind.spawnFields, Fields.build_seq_iff,
      Fields.build_map_iff] at built
    obtain ⟨_, ⟨probability, probabilityBuilt, rfl⟩, overrides, overridesBuilt, rfl⟩ := built
    constructor
    · obtain ⟨json, read⟩ := Fields.build_of_required probabilityBuilt
      exact Reader.isFinite_of_double read
    · rcases Fields.build_of_withDefault overridesBuilt with rfl | ⟨json, read⟩
      · intro entry member
        cases member
      · exact Reader.forall_of_table (fun _ _ => Reader.isFinite_of_double) read

theorem EdgeKind.legible_of_readMembers {readTag : Reader EdgeType}
    {members : List (String × Json)} {kind : EdgeKind}
    (read : EdgeKind.readMembers readTag members = .ok kind) : kind.Legible := by
  unfold EdgeKind.readMembers at read
  split at read
  · cases read
  · obtain ⟨type, -, read⟩ := bind_eq_ok_iff.1 read
    obtain ⟨find, built⟩ := Fields.exists_build_of_readMembers read
    exact legible_of_build built

theorem Edge.legible_of_read {json : Json} {edge : Edge} (read : Edge.read json = .ok edge) :
    edge.kind.Legible := by
  unfold Edge.read at read
  split at read
  · obtain ⟨common, commonRead, read⟩ := bind_eq_ok_iff.1 read
    obtain ⟨kind, kindRead, same⟩ := bind_eq_ok_iff.1 read
    cases same
    obtain ⟨find, built⟩ := Fields.exists_build_of_readMembers commonRead
    simp only [Edge.fields, Fields.build_seq_iff, Fields.build_map_iff] at built
    obtain ⟨_, ⟨_, ⟨id, -, rfl⟩, source, -, rfl⟩, target, -, rfl⟩ := built
    exact EdgeKind.legible_of_readMembers kindRead
  · cases read

/-! ## Worlds -/

/-- **What has been read is legible.** -/
theorem Snapshot.legible_of_read {json : Json} {world : Snapshot}
    (read : Snapshot.read json = .ok world) : world.Legible := by
  obtain ⟨find, built⟩ := Fields.exists_build read
  simp only [Snapshot.fields, Fields.build_seq_iff, Fields.build_map_iff] at built
  obtain ⟨_, ⟨nodes, nodesBuilt, rfl⟩, edges, edgesBuilt, rfl⟩ := built
  have nodesLegible : ∀ node ∈ nodes,
      Filters.requiresAnyKey ∉ node.filters.other.keys ∧ node.position.Legible ∧
        node.kind.Legible := by
    rcases Fields.build_of_withDefault nodesBuilt with rfl | ⟨json, read⟩
    · exact List.forall_mem_nil _
    · exact Reader.forall_of_list (fun _ _ => Node.legible_of_read) read
  have edgesLegible : ∀ edge ∈ edges, edge.kind.Legible := by
    rcases Fields.build_of_withDefault edgesBuilt with rfl | ⟨json, read⟩
    · exact List.forall_mem_nil _
    · exact Reader.forall_of_list (fun _ _ => Edge.legible_of_read) read
  exact ⟨fun node member => (nodesLegible node member).1,
    fun node member => (nodesLegible node member).2.1,
    fun node member => (nodesLegible node member).2.2, edgesLegible⟩

end StoryWorld

import StoryWorld.Graph.Writing
import StoryWorld.Proofs.Graph.Legibility

/-!
# Reading back written worlds

Whatever shape a world had when it was read, it is written in one, and that one is read as the same
world (`Snapshot.readsBack_of_read`).

A written node has its common fields, then the tag of its kind, then the data of that kind, and no
other keys (`Node.keys_members`); so what the common fields and what the kind look up is what was
written for them. An edge is written and read in the same way. What is left out when it is written
is what its field has by default: the short text that is absent, the tags and the overrides that
are empty.
-/

set_option autoImplicit false

namespace StoryWorld

open Json

/-! ## Values -/

theorem readStrings_ofStrings (texts : List String) : readStrings (.ofStrings texts) = .ok texts :=
  Reader.list_map fun _ _ => rfl

theorem ImageUrls.read_toJson (urls : ImageUrls) : ImageUrls.read urls.toJson = .ok urls := by
  cases urls with
  | one url => rfl
  | many urls =>
    have back := readStrings_ofStrings urls
    simp only [ofStrings] at back
    simp only [toJson, ofStrings, read, back]

theorem Images.read_toJson (images : Images) : Images.read images.toJson = .ok images :=
  Reader.table_ofTable fun entry _ => entry.2.read_toJson

theorem Position.read_toJson {position : Position} (legible : position.Legible) :
    Position.read position.toJson = .ok position := by
  have distinct : ([("x", Json.ofFloat position.x), ("y", .ofFloat position.y)].map
      Prod.fst).Nodup := by simp
  have x : (Fields.required "x" Reader.double).Reads _ position.x :=
    Fields.reads_field distinct rfl (Reader.double_ofFloat legible.1)
  have y : (Fields.required "y" Reader.double).Reads _ position.y :=
    Fields.reads_field distinct rfl (Reader.double_ofFloat legible.2)
  exact ((x.map Position.mk).seq y).readMembers_eq

/-! ## Filters -/

/-- The members of written filters. -/
def Filters.members (filters : Filters) : List (String × Json) :=
  (if filters.requiresAny.isEmpty then []
    else [(Filters.requiresAnyKey, .ofStrings filters.requiresAny)]) ++ filters.other.entries

/-- The required tags are found under their key if there are any. -/
theorem Filters.reads_requiresAny {filters : Filters}
    (conditions : Filters.requiresAnyKey ∉ filters.other.keys) :
    (Fields.withDefault Filters.requiresAnyKey [] readStrings).Reads filters.members
      filters.requiresAny := by
  unfold members
  split
  · rename_i none
    rw [List.nil_append, List.isEmpty_iff.1 none]
    refine Fields.reads_missing (List.lookup_eq_none_iff.2 fun entry member => ?_) rfl
    rw [bne_iff_ne]
    intro same
    exact conditions (same ▸ List.mem_map_of_mem member)
  · refine Fields.reads_field ?_ (List.lookup_cons_self ..) (readStrings_ofStrings _)
    exact List.nodup_cons.2 ⟨conditions, filters.other.keys_nodup⟩

theorem Filters.filter_members {filters : Filters}
    (conditions : Filters.requiresAnyKey ∉ filters.other.keys) :
    filters.members.filter (fun member => decide (member.1 ≠ Filters.requiresAnyKey)) =
      filters.other.entries := by
  have others : filters.other.entries.filter
      (fun member => decide (member.1 ≠ Filters.requiresAnyKey)) = filters.other.entries := by
    refine List.filter_eq_self.2 fun member inside => decide_eq_true fun same => ?_
    exact conditions (same ▸ List.mem_map_of_mem inside)
  rw [members, List.filter_append, others]
  split <;> simp

/-- Filters are read back: the required tags if there are any, and every condition as it is. -/
theorem Filters.read_toJson {filters : Filters}
    (conditions : Filters.requiresAnyKey ∉ filters.other.keys) :
    Filters.read filters.toJson = .ok filters := by
  have written : filters.toJson = .object filters.members := rfl
  rw [written]
  refine bind_eq_ok_iff.2
    ⟨filters.requiresAny, (Filters.reads_requiresAny conditions).readMembers_eq, ?_⟩
  rw [filter_members conditions]
  exact congrArg (fun other => Except.ok (Filters.mk filters.requiresAny other))
    (Table.ofList_entries filters.other)

/-! ## Nodes -/

theorem NodeType.choice_names (type : NodeType) :
    Reader.choice NodeType.names (.string type.name) = .ok type := by
  cases type <;> rfl

/-- The kind of a node is written under its tag, and its data under the keys of its fields. -/
theorem NodeKind.keys_members (kind : NodeKind) :
    kind.members.map Prod.fst = NodeKind.tag :: (NodeKind.fields kind.type).keys := by
  cases kind <;> rfl

section Kinds

variable {members : List (String × Json)}

theorem NodeKind.reads_members (distinct : (members.map Prod.fst).Nodup) {kind : NodeKind}
    (legible : kind.Legible) (inside : kind.members ⊆ members) :
    (NodeKind.fields kind.type).Reads members kind := by
  cases kind with
  | location => exact ⟨fun _ _ => rfl, rfl⟩
  | character disabledFor =>
    have disabled : (Fields.withDefault "disabledFor" [] readStrings).Reads members disabledFor :=
      Fields.reads_of_mem distinct (.ofStrings disabledFor)
        (inside (by simp [NodeKind.members])) (readStrings_ofStrings disabledFor)
    exact disabled.map NodeKind.character
  | event timeFilter isGlobal chance =>
    have times : (Fields.withDefault "timeFilter" [] readStrings).Reads members timeFilter :=
      Fields.reads_of_mem distinct (.ofStrings timeFilter)
        (inside (by simp [NodeKind.members])) (readStrings_ofStrings timeFilter)
    have global : (Fields.withDefault "isGlobal" false Reader.boolean).Reads members isGlobal :=
      Fields.reads_of_mem distinct (.boolean isGlobal) (inside (by simp [NodeKind.members])) rfl
    have chances : (Fields.withDefault "globalSpawnChance" 0 Reader.double).Reads members chance :=
      Fields.reads_of_mem distinct (.ofFloat chance) (inside (by simp [NodeKind.members]))
        (Reader.double_ofFloat legible)
    exact ((times.map NodeKind.event).seq global).seq chances
  | sublocation parent =>
    have owner : (Fields.required "parent" ElementId.read).Reads members parent :=
      Fields.reads_of_mem distinct (.string parent.text) (inside (by simp [NodeKind.members])) rfl
    exact owner.map NodeKind.sublocation

/-- The kind of a node is read back among any members that repeat no key. -/
theorem NodeKind.readMembers_members (distinct : (members.map Prod.fst).Nodup) {kind : NodeKind}
    (legible : kind.Legible) (inside : kind.members ⊆ members) :
    NodeKind.readMembers members = .ok kind := by
  have tagged : (NodeKind.tag, Json.string kind.type.name) ∈ kind.members := by
    cases kind <;> exact List.mem_cons_self ..
  rw [NodeKind.readMembers, lookup_eq_of_mem distinct (inside tagged)]
  exact bind_eq_ok_iff.2 ⟨kind.type, kind.type.choice_names,
    (NodeKind.reads_members distinct legible inside).readMembers_eq⟩

end Kinds

namespace Node

/-- The member of a written node that holds its short text. -/
def shortMembers (node : Node) : List (String × Json) :=
  match node.contentShort with
  | some text => [("contentShort", .string text)]
  | none => []

/-- The members of a written node. -/
def members (node : Node) : List (String × Json) :=
  [("id", .string node.id.text), ("name", .string node.name),
      ("keywords", .ofStrings node.keywords), ("content", .string node.content)] ++
    node.shortMembers ++
    [("images", node.images.toJson), ("filters", node.filters.toJson),
      ("position", node.position.toJson)] ++
    node.kind.members

/-- A written node has the keys of the common fields, in their order, and then those of its kind. -/
theorem keys_members (node : Node) :
    (node.members.map Prod.fst).Sublist
      (Node.fields.keys ++ NodeKind.tag :: (NodeKind.fields node.type).keys) := by
  have short : (node.shortMembers.map Prod.fst).Sublist ["contentShort"] := by
    unfold shortMembers
    split
    · exact List.Sublist.refl _
    · exact List.nil_sublist _
  simp only [members, List.map_append, NodeKind.keys_members]
  exact (((List.Sublist.refl _).append short).append (List.Sublist.refl _)).append
    (List.Sublist.refl _)

theorem nodup_members (node : Node) : (node.members.map Prod.fst).Nodup := by
  refine node.keys_members.nodup ?_
  cases node.type <;> decide

theorem lookup_contentShort (node : Node) :
    node.members.lookup "contentShort" = node.contentShort.map .string := by
  obtain ⟨id, name, keywords, content, contentShort, images, filters, position, kind⟩ := node
  cases contentShort <;> cases kind <;> rfl

/-- The common fields of a node are read back, whatever its kind. -/
theorem reads_members {node : Node} (position : node.position.Legible)
    (conditions : Filters.requiresAnyKey ∉ node.filters.other.keys) :
    Node.fields.Reads node.members fun kind =>
      ⟨node.id, node.name, node.keywords, node.content, node.contentShort, node.images,
        node.filters, node.position, kind⟩ := by
  have distinct := node.nodup_members
  have id : (Fields.required "id" ElementId.read).Reads node.members node.id :=
    Fields.reads_of_mem distinct (.string node.id.text) (by simp [members]) rfl
  have name : (Fields.required "name" Reader.string).Reads node.members node.name :=
    Fields.reads_of_mem distinct (.string node.name) (by simp [members]) rfl
  have keywords : (Fields.withDefault "keywords" [] readStrings).Reads node.members
      node.keywords :=
    Fields.reads_of_mem distinct (.ofStrings node.keywords) (by simp [members])
      (readStrings_ofStrings _)
  have content : (Fields.withDefault "content" "" Reader.string).Reads node.members node.content :=
    Fields.reads_of_mem distinct (.string node.content) (by simp [members]) rfl
  have short : (Fields.withDefault "contentShort" none (Reader.optional Reader.string)).Reads
      node.members node.contentShort := by
    have here := node.lookup_contentShort
    cases given : node.contentShort with
    | none =>
      rw [given] at here
      exact Fields.reads_missing here rfl
    | some text =>
      rw [given] at here
      exact Fields.reads_field distinct here rfl
  have images : (Fields.withDefault Node.imagesKey .empty Images.read).Reads node.members
      node.images :=
    Fields.reads_of_mem distinct node.images.toJson (by simp [members, imagesKey])
      node.images.read_toJson
  have filters : (Fields.withDefault "filters" .none Filters.read).Reads node.members
      node.filters :=
    Fields.reads_of_mem distinct node.filters.toJson (by simp [members])
      (Filters.read_toJson conditions)
  have place : (Fields.withDefault "position" .origin Position.read).Reads node.members
      node.position :=
    Fields.reads_of_mem distinct node.position.toJson (by simp [members])
      (Position.read_toJson position)
  exact ((((((((id.map Node.mk).seq name).seq keywords).seq content).seq short).seq images).seq
    filters).seq place)

/-- **Nodes are read back.** -/
theorem read_toJson {node : Node} (position : node.position.Legible)
    (conditions : Filters.requiresAnyKey ∉ node.filters.other.keys)
    (kind : node.kind.Legible) : Node.read node.toJson = .ok node := by
  have common := (reads_members position conditions).readMembers_eq
  have kindRead : NodeKind.readMembers node.members = .ok node.kind :=
    NodeKind.readMembers_members node.nodup_members kind (List.subset_append_right ..)
  exact bind_eq_ok_iff.2 ⟨_, common, bind_eq_ok_iff.2 ⟨node.kind, kindRead, rfl⟩⟩

end Node

/-! ## Edges -/

theorem EdgeType.choice_names (type : EdgeType) :
    Reader.choice EdgeType.names (.string type.name) = .ok type := by
  cases type <;> rfl

namespace Edge

/-- The members of a written edge. -/
def members (edge : Edge) : List (String × Json) :=
  [("id", .string edge.id.text), ("source", .string edge.source.text),
    ("target", .string edge.target.text)] ++ edge.kind.members

/-- A written edge has the keys of the common fields, in their order, and then those of its kind. -/
theorem keys_members (edge : Edge) :
    (edge.members.map Prod.fst).Sublist
      (Edge.fields.keys ++ EdgeKind.tag :: (EdgeKind.fields edge.type).keys) := by
  have kind : (edge.kind.members.map Prod.fst).Sublist
      (EdgeKind.tag :: (EdgeKind.fields edge.kind.type).keys) := by
    cases edge.kind with
    | adjacent => exact List.Sublist.refl _
    | knows relationship sourceThinks targetThinks => exact List.Sublist.refl _
    | spawn probability overrides =>
      simp only [EdgeKind.members]
      split
      · exact (List.Sublist.refl ["edgeType", "probability"]).append (List.nil_sublist _)
      · exact List.Sublist.refl _
  rw [members, List.map_append]
  exact (List.Sublist.refl _).append kind

theorem nodup_members (edge : Edge) : (edge.members.map Prod.fst).Nodup := by
  refine edge.keys_members.nodup ?_
  cases edge.type <;> decide

/-- The kind of an edge is read back; overrides that are left out are none. -/
theorem reads_kind {edge : Edge} (legible : edge.kind.Legible) :
    (EdgeKind.fields edge.type).Reads edge.members edge.kind := by
  have distinct := edge.nodup_members
  obtain ⟨id, source, target, kind⟩ := edge
  cases kind with
  | adjacent => exact ⟨fun _ _ => rfl, rfl⟩
  | knows relationship sourceThinks targetThinks =>
    have relation : (Fields.withDefault "relationship" "" Reader.string).Reads _ relationship :=
      Fields.reads_of_mem distinct (.string relationship) (by simp [members, EdgeKind.members]) rfl
    have sourceSays : (Fields.withDefault "sourceThinks" "" Reader.string).Reads _ sourceThinks :=
      Fields.reads_of_mem distinct (.string sourceThinks) (by simp [members, EdgeKind.members]) rfl
    have targetSays : (Fields.withDefault "targetThinks" "" Reader.string).Reads _ targetThinks :=
      Fields.reads_of_mem distinct (.string targetThinks) (by simp [members, EdgeKind.members]) rfl
    exact ((relation.map EdgeKind.knows).seq sourceSays).seq targetSays
  | spawn probability overrides =>
    have chance : (Fields.required "probability" Reader.double).Reads _ probability :=
      Fields.reads_of_mem distinct (.ofFloat probability) (by simp [members, EdgeKind.members])
        (Reader.double_ofFloat legible.1)
    have others : (Fields.withDefault EdgeKind.sublocationsKey .empty
        (Reader.table Reader.double)).Reads
        (members ⟨id, source, target, .spawn probability overrides⟩) overrides := by
      by_cases empty : overrides.isEmpty
      · refine Fields.reads_missing ?_ ?_
        · simp only [members, EdgeKind.members, if_pos empty]
          rfl
        · exact congrArg Except.ok (Table.ext_entries (List.isEmpty_iff.1 empty).symm)
      · refine Fields.reads_of_mem distinct (.ofTable .ofFloat overrides)
          (by simp [members, EdgeKind.members, empty, EdgeKind.sublocationsKey]) ?_
        exact Reader.table_ofTable fun entry member =>
          Reader.double_ofFloat (legible.2 entry member)
    exact (chance.map EdgeKind.spawn).seq others

/-- **Edges are read back.** -/
theorem read_toJson {edge : Edge} (legible : edge.kind.Legible) :
    Edge.read edge.toJson = .ok edge := by
  have distinct := edge.nodup_members
  have id : (Fields.required "id" ElementId.read).Reads edge.members edge.id :=
    Fields.reads_of_mem distinct (.string edge.id.text) (by simp [members]) rfl
  have source : (Fields.required "source" ElementId.read).Reads edge.members edge.source :=
    Fields.reads_of_mem distinct (.string edge.source.text) (by simp [members]) rfl
  have target : (Fields.required "target" ElementId.read).Reads edge.members edge.target :=
    Fields.reads_of_mem distinct (.string edge.target.text) (by simp [members]) rfl
  have common := (((id.map Edge.mk).seq source).seq target).readMembers_eq
  have tagged : (EdgeKind.tag, Json.string edge.type.name) ∈ edge.members := by
    refine List.mem_append_right _ ?_
    rw [Edge.type]
    cases edge.kind <;> exact List.mem_cons_self ..
  have kindRead : EdgeKind.readMembers (Reader.choice EdgeType.names) edge.members =
      .ok edge.kind := by
    rw [EdgeKind.readMembers, lookup_eq_of_mem distinct tagged]
    exact bind_eq_ok_iff.2 ⟨edge.type, edge.type.choice_names, (reads_kind legible).readMembers_eq⟩
  exact bind_eq_ok_iff.2 ⟨_, common, bind_eq_ok_iff.2 ⟨edge.kind, kindRead, rfl⟩⟩

end Edge

/-! ## Worlds -/

namespace Snapshot

variable {json : Json} {world : Snapshot}

/-- Legible worlds are read back. -/
theorem Legible.read_toJson (legible : world.Legible) :
    Snapshot.read world.toJson = .ok world := by
  have distinct : ([("nodes", Json.array (world.nodes.map Node.toJson)),
      ("edges", .array (world.edges.map Edge.toJson))].map Prod.fst).Nodup := by simp
  have nodes : (Fields.withDefault "nodes" [] (Reader.list Node.read)).Reads _ world.nodes :=
    Fields.reads_field distinct rfl <| Reader.list_map fun node member =>
      Node.read_toJson (legible.positions node member) (legible.conditions node member)
        (legible.nodes node member)
  have edges : (Fields.withDefault "edges" [] (Reader.list Edge.read)).Reads _ world.edges :=
    Fields.reads_field distinct rfl <| Reader.list_map fun edge member =>
      Edge.read_toJson (legible.edges edge member)
  exact ((nodes.map Snapshot.mk).seq edges).readMembers_eq

/-- **A world that has been read is read back from its written form**, whatever shape it had at
first, and is then written in the same form again. -/
theorem readsBack_of_read (read : Snapshot.read json = .ok world) :
    ∃ again, Snapshot.read world.toJson = .ok again ∧ again = world ∧
      again.toJson = world.toJson :=
  ⟨world, (legible_of_read read).read_toJson, rfl, rfl⟩

/-- A world in as many forms as can be read: lists in place of objects, kinds by their position,
an integer for a double, a short text that is null, keys that nobody knows, and data that belongs
to another kind. -/
def estuaryDocument : Json :=
  .array
    [.array
      [.object
        [("type", .integer 0), ("parent", .boolean true), ("name", .string "Estuary"),
          ("position", .array [.integer 3, .ofFloat 0.5]), ("id", .string "loc_1"),
          ("colour", .string "blue"),
          ("images", .object [("day", .string "quay.png"),
            ("night", .ofStrings ["lamps.png", "fog.png"])]),
          ("filters", .object [("season", .object [("from", .integer 3)]),
            ("requiresAny", .ofStrings ["tide"]), ("weather", .null)])],
        .object
          [("id", .string "subloc_2"), ("name", .string ""), ("type", .string "sublocation"),
            ("parent", .string "loc_1"), ("contentShort", .null)],
        .object
          [("contentShort", .string ""), ("id", .string "char_3"), ("name", .string "Ada"),
            ("keywords", .ofStrings ["ada", "ada"]), ("type", .integer 1), ("timeFilter", .null),
            ("disabledFor", .ofStrings ["night"])],
        .object
          [("type", .string "event"), ("id", .string "event_4"), ("name", .string "Storm"),
            ("globalSpawnChance", .integer 1), ("isGlobal", .boolean true),
            ("filters", .object [("requiresAny", .array [])])]],
      .array
        [.object
          [("edgeType", .integer 0), ("id", .string "edge_1"), ("source", .string "char_3"),
            ("target", .string "loc_1"), ("probability", .integer 0),
            ("sublocationProbabilities", .object [])],
          .object
            [("id", .string "edge_2"), ("source", .string "event_4"), ("target", .string "loc_1"),
              ("edgeType", .string "spawn"), ("probability", .ofFloat 0.25),
              ("sublocationProbabilities", .object [("", .integer 0)])],
          .object
            [("id", .string "edge_3"), ("edgeType", .string "knows"), ("source", .string "char_3"),
              ("target", .string "char_3"), ("probability", .string "unknown"),
              ("sourceThinks", .string "tired")]]]

/-- The world in the document. -/
def estuary : Snapshot where
  nodes :=
    [{ Node.blank ⟨"loc_1"⟩ "Estuary" .location with
        contentShort := none, position := ⟨3, 0.5⟩,
        images := .ofList [("day", .one "quay.png"), ("night", .many ["lamps.png", "fog.png"])],
        filters := ⟨["tide"], .ofList [("season", .object [("from", .integer 3)]),
          ("weather", .null)]⟩ },
      Node.blank ⟨"subloc_2"⟩ "" (.sublocation ⟨"loc_1"⟩),
      { Node.blank ⟨"char_3"⟩ "Ada" (.character ["night"]) with keywords := ["ada", "ada"] },
      Node.blank ⟨"event_4"⟩ "Storm" (.event [] true 1)]
  edges :=
    [⟨⟨"edge_1"⟩, ⟨"char_3"⟩, ⟨"loc_1"⟩, .spawn 0 .empty⟩,
      ⟨⟨"edge_2"⟩, ⟨"event_4"⟩, ⟨"loc_1"⟩, .spawn 0.25 (.ofList [("", 0)])⟩,
      ⟨⟨"edge_3"⟩, ⟨"char_3"⟩, ⟨"char_3"⟩, .knows "" "tired" ""⟩]

theorem estuary_readsBack :
    Snapshot.read estuaryDocument = .ok estuary ∧ estuary.toJson ≠ estuaryDocument ∧
      ∃ again, Snapshot.read estuary.toJson = .ok again ∧ again = estuary ∧
        again.toJson = estuary.toJson := by
  have read : Snapshot.read estuaryDocument = .ok estuary := by decide +kernel
  exact ⟨read, Json.noConfusion, readsBack_of_read read⟩

end Snapshot

end StoryWorld

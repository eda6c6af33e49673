import StoryWorld.Graph.Settings
import StoryWorld.Graph.Snapshot

/-!
# Worlds as JSON values

Every type of the world has one written form. What is absent or empty by default is left out where
its doc comment says so; all else is written, in the order of the fields. The data that only one
kind of node or edge has follows the common fields, its kind first.
-/

set_option autoImplicit false

namespace StoryWorld

/-- The written form of a place. -/
def Position.toJson (position : Position) : Json :=
  .object [("x", .ofFloat position.x), ("y", .ofFloat position.y)]

/-- The written form of addresses: a text or a list of texts. -/
def ImageUrls.toJson : ImageUrls → Json
  | .one url => .string url
  | .many urls => .ofStrings urls

/-- The written form of images. -/
def Images.toJson (images : Images) : Json := .ofTable ImageUrls.toJson images

/-- The written form of filters: the required tags, if there are any, and the other conditions
beside them. -/
def Filters.toJson (filters : Filters) : Json :=
  .object ((if filters.requiresAny.isEmpty then []
      else [("requiresAny", .ofStrings filters.requiresAny)]) ++ filters.other.entries)

/-- The members that hold the kind of a node. -/
def NodeKind.members : NodeKind → List (String × Json)
  | .location => [("type", .string "location")]
  | .character disabledFor =>
    [("type", .string "character"), ("disabledFor", .ofStrings disabledFor)]
  | .event timeFilter isGlobal globalSpawnChance =>
    [("type", .string "event"), ("timeFilter", .ofStrings timeFilter),
      ("isGlobal", .boolean isGlobal), ("globalSpawnChance", .ofFloat globalSpawnChance)]
  | .sublocation parent => [("type", .string "sublocation"), ("parent", .string parent.text)]

/-- The written form of a node; a short text that is absent is left out. -/
def Node.toJson (node : Node) : Json :=
  .object ([("id", .string node.id.text), ("name", .string node.name),
      ("keywords", .ofStrings node.keywords), ("content", .string node.content)] ++
    (match node.contentShort with
      | some text => [("contentShort", .string text)]
      | none => []) ++
    [("images", node.images.toJson), ("filters", node.filters.toJson),
      ("position", node.position.toJson)] ++
    node.kind.members)

/-- The members that hold the kind of an edge; a table of overrides that is empty is left out. -/
def EdgeKind.members : EdgeKind → List (String × Json)
  | .spawn probability overrides =>
    [("edgeType", .string "spawn"), ("probability", .ofFloat probability)] ++
      if overrides.isEmpty then []
      else [("sublocationProbabilities", .ofTable .ofFloat overrides)]
  | .adjacent => [("edgeType", .string "adjacent")]
  | .knows relationship sourceThinks targetThinks =>
    [("edgeType", .string "knows"), ("relationship", .string relationship),
      ("sourceThinks", .string sourceThinks), ("targetThinks", .string targetThinks)]

/-- The written form of an edge. -/
def Edge.toJson (edge : Edge) : Json :=
  .object ([("id", .string edge.id.text), ("source", .string edge.source.text),
    ("target", .string edge.target.text)] ++ edge.kind.members)

/-- The written form of a snapshot. -/
def Snapshot.toJson (world : Snapshot) : Json :=
  .object [("nodes", .array (world.nodes.map Node.toJson)),
    ("edges", .array (world.edges.map Edge.toJson))]

/-- The written form of settings. -/
def GraphSettings.toJson (settings : GraphSettings) : Json :=
  .object [("default_spawn_probability", .ofFloat settings.defaultSpawnProbability),
    ("default_global_spawn_chance", .ofFloat settings.defaultGlobalSpawnChance),
    ("node_origin", settings.nodeOrigin.toJson), ("node_stagger", .ofFloat settings.nodeStagger),
    ("sublocation_spacing", .ofFloat settings.sublocationSpacing),
    ("sublocation_drop", .ofFloat settings.sublocationDrop)]

end StoryWorld

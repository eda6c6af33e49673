import StoryWorld.Graph.Settings
import StoryWorld.Graph.Snapshot
import StoryWorld.Json.Fields

/-!
# Worlds from JSON values

The readers of the types of the world. A node or an edge is read in two parts: first the fields
that all of them have, then its kind and the data that belongs to that kind; members that belong to
another kind are left alone. Filters keep the conditions that they do not know.
-/

set_option autoImplicit false

namespace StoryWorld

open Json

/-- Reads a list of texts. -/
def readStrings : Reader (List String) := Reader.list Reader.string

/-- Reads an identity. -/
def ElementId.read : Reader ElementId := fun value => (Reader.string value).map ElementId.mk

/-- The fields of a place. -/
def Position.fields : Fields Position :=
  Position.mk <$> .required "x" Reader.double <*> .required "y" Reader.double

/-- Reads a place. -/
def Position.read : Reader Position := Position.fields.reader "struct Position"

/-- Reads the addresses under one key. -/
def ImageUrls.read : Reader ImageUrls
  | .string url => .ok (.one url)
  | found =>
    match readStrings found with
    | .ok urls => .ok (.many urls)
    | .error _ => .error (.noAlternative "ImageUrls")

/-- Reads images. -/
def Images.read : Reader Images := Reader.table ImageUrls.read

/-- The key of the required tags of filters. -/
def Filters.requiresAnyKey : String := "requiresAny"

/-- Reads filters; conditions other than the required tags are kept as they are. -/
def Filters.read : Reader Filters
  | .object members => do
    let known : Fields (List String) := .withDefault Filters.requiresAnyKey [] readStrings
    let requiresAny ← known.readMembers members
    let other := members.filter fun member => decide (member.1 ≠ Filters.requiresAnyKey)
    return ⟨requiresAny, Table.ofList other⟩
  | found => .error (.unexpected found "struct Filters")

/-- The kinds of nodes by name. -/
def NodeType.names : List (String × NodeType) := NodeType.all.map fun type => (type.name, type)

/-- The kinds of edges by name. -/
def EdgeType.names : List (String × EdgeType) := EdgeType.all.map fun type => (type.name, type)

/-- The data of a character. -/
def NodeKind.characterFields : Fields NodeKind :=
  NodeKind.character <$> .withDefault "disabledFor" [] readStrings

/-- The data of an event. -/
def NodeKind.eventFields : Fields NodeKind :=
  NodeKind.event <$> .withDefault "timeFilter" [] readStrings
    <*> .withDefault "isGlobal" false Reader.boolean
    <*> .withDefault "globalSpawnChance" 0 Reader.double

/-- The data of a sublocation. -/
def NodeKind.sublocationFields : Fields NodeKind :=
  NodeKind.sublocation <$> .required "parent" ElementId.read

/-- The data of a kind of node. -/
def NodeKind.fields : NodeType → Fields NodeKind
  | .location => pure .location
  | .character => NodeKind.characterFields
  | .event => NodeKind.eventFields
  | .sublocation => NodeKind.sublocationFields

/-- The key of the kind of a node. -/
def NodeKind.tag : String := "type"

/-- Reads the kind of a node among the members of the node. -/
def NodeKind.readMembers (members : List (String × Json)) : Except Fault NodeKind :=
  match members.lookup NodeKind.tag with
  | none => .error (.missingField NodeKind.tag)
  | some value => do
    let type ← Reader.choice NodeType.names value
    (NodeKind.fields type).readMembers members

/-- The key of the images of a node. -/
def Node.imagesKey : String := "images"

/-- The fields that all nodes have; the kind comes last. -/
def Node.fields : Fields (NodeKind → Node) :=
  Node.mk <$> .required "id" ElementId.read
    <*> .required "name" Reader.string
    <*> .withDefault "keywords" [] readStrings
    <*> .withDefault "content" "" Reader.string
    <*> .withDefault "contentShort" none (Reader.optional Reader.string)
    <*> .withDefault Node.imagesKey .empty Images.read
    <*> .withDefault "filters" .none Filters.read
    <*> .withDefault "position" .origin Position.read

/-- Reads a node. -/
def Node.read : Reader Node
  | .object members => do
    let common ← Node.fields.readMembers members
    return common (← NodeKind.readMembers members)
  | found => .error (.unexpected found "struct Node")

/-- The key of the probabilities of sublocations. -/
def EdgeKind.sublocationsKey : String := "sublocationProbabilities"

/-- The data of a spawn edge. -/
def EdgeKind.spawnFields : Fields EdgeKind :=
  EdgeKind.spawn <$> .required "probability" Reader.double
    <*> .withDefault EdgeKind.sublocationsKey .empty (Reader.table Reader.double)

/-- The data of an acquaintance. -/
def EdgeKind.knowsFields : Fields EdgeKind :=
  EdgeKind.knows <$> .withDefault "relationship" "" Reader.string
    <*> .withDefault "sourceThinks" "" Reader.string
    <*> .withDefault "targetThinks" "" Reader.string

/-- The data of a kind of edge. -/
def EdgeKind.fields : EdgeType → Fields EdgeKind
  | .spawn => EdgeKind.spawnFields
  | .adjacent => pure .adjacent
  | .knows => EdgeKind.knowsFields

/-- The key of the kind of an edge. -/
def EdgeKind.tag : String := "edgeType"

/-- Reads the kind of an edge among the members of an object, the tag with the given reader. -/
def EdgeKind.readMembers (readTag : Reader EdgeType) (members : List (String × Json)) :
    Except Fault EdgeKind :=
  match members.lookup EdgeKind.tag with
  | none => .error (.missingField EdgeKind.tag)
  | some value => do
    let type ← readTag value
    (EdgeKind.fields type).readMembers members

/-- What the data of a kind of edge is called where it is wanted. -/
def EdgeKind.wanted : EdgeType → String
  | .spawn => "struct variant EdgeKind::Spawn"
  | .adjacent => "unit variant EdgeKind::Adjacent"
  | .knows => "struct variant EdgeKind::Knows"

/-- Reads the kind of an edge by itself; in an array the kind stands before the values of its
fields. The kind is given by its name. -/
def EdgeKind.read : Reader EdgeKind
  | .object members => EdgeKind.readMembers (Reader.name EdgeType.names) members
  | .array [] => .error (.missingField EdgeKind.tag)
  | .array (value :: items) => do
    let type ← Reader.name EdgeType.names value
    let fields := EdgeKind.fields type
    fields.readItems (EdgeKind.wanted type)
      (integerText fields.keys.length ++ " elements in sequence") items
  | found => .error (.unexpected found "internally tagged enum EdgeKind")

/-- The fields that all edges have; the kind comes last. -/
def Edge.fields : Fields (EdgeKind → Edge) :=
  Edge.mk <$> .required "id" ElementId.read
    <*> .required "source" ElementId.read
    <*> .required "target" ElementId.read

/-- Reads an edge. Its kind is given by its name or by its position among the kinds. -/
def Edge.read : Reader Edge
  | .object members => do
    let common ← Edge.fields.readMembers members
    return common (← EdgeKind.readMembers (Reader.choice EdgeType.names) members)
  | found => .error (.unexpected found "struct Edge")

/-- The fields of a snapshot. -/
def Snapshot.fields : Fields Snapshot :=
  Snapshot.mk <$> .withDefault "nodes" [] (Reader.list Node.read)
    <*> .withDefault "edges" [] (Reader.list Edge.read)

/-- Reads a snapshot. -/
def Snapshot.read : Reader Snapshot := Snapshot.fields.reader "struct GraphSnapshot"

/-- The fields of settings. -/
def GraphSettings.fields : Fields GraphSettings :=
  let standard : GraphSettings := {}
  GraphSettings.mk
    <$> .withDefault "default_spawn_probability" standard.defaultSpawnProbability Reader.double
    <*> .withDefault "default_global_spawn_chance" standard.defaultGlobalSpawnChance Reader.double
    <*> .withDefault "node_origin" standard.nodeOrigin Position.read
    <*> .withDefault "node_stagger" standard.nodeStagger Reader.double
    <*> .withDefault "sublocation_spacing" standard.sublocationSpacing Reader.double
    <*> .withDefault "sublocation_drop" standard.sublocationDrop Reader.double

/-- Reads settings. -/
def GraphSettings.read : Reader GraphSettings :=
  GraphSettings.fields.reader "struct GraphSettings"

end StoryWorld

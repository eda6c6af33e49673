import StoryWorld.Graph.Reading
import StoryWorld.Json.Written

/-!
# Texts of snapshots

A snapshot that stands in a file is read more strictly than one that is given as a value: no field
of a snapshot, node, edge, filter or place may be written twice. In the tables under a field a key
may be written again, but the values that are replaced have to be readable too. What is not a field
is not looked at; in a snapshot and in a place it may even be something that has no value.
-/

set_option autoImplicit false

namespace StoryWorld

open Json

namespace Json.Written

/-- The member under a key of an object. -/
def member? (key : String) : Written → Option Written
  | .object members => members.lookup (some key)
  | _ => none

/-- How often a key is written in an object. -/
def count (key : String) : Written → Nat
  | .object members => (members.filter fun member => decide (member.1 = some key)).length
  | _ => 0

/-- Whether none of the keys is written twice in an object. -/
def hasOnce (keys : List String) (tree : Written) : Bool :=
  keys.all fun key => decide (tree.count key ≤ 1)

/-- Whether no member of an object has a value that cannot be read, also where a later one replaces
it. -/
def hasReadable {α : Type} (reader : Reader α) : Written → Bool
  | .object members =>
    members.all fun member => (member.2.value? maxDepth).all fun value => (reader value).isOk
  | _ => true

/-- The items of an array. -/
def items : Written → List Written
  | .array items => items
  | _ => []

/-- Changes every item of an array. -/
def mapItems (change : Written → Written) : Written → Written
  | .array items => .array (items.map change)
  | other => other

/-- Changes the members of an object that have a given key. -/
def mapMember (key : String) (change : Written → Written) : Written → Written
  | .object members =>
    .object (members.map fun member =>
      if member.1 = some key then (member.1, change member.2) else member)
  | other => other

/-- Leaves out of an object what stands under other keys than the given ones. A key without a text
stays. -/
def keepOnly (keys : List String) : Written → Written
  | .object members =>
    .object (members.filter fun member =>
      match member.1 with
      | some key => decide (key ∈ keys)
      | none => true)
  | other => other

end Json.Written

namespace Snapshot

/-- The kind that is written in a tree under a key, if it can be read. -/
def writtenKind? {α : Type} (names : List (String × α)) (tag : String) (tree : Written) :
    Option α := do
  let value ← (← tree.member? tag).value? Written.maxDepth
  (Reader.choice names value).toOption

/-- Whether no field of a place is written twice. -/
def positionHasOnce (tree : Written) : Bool := tree.hasOnce Position.fields.keys

/-- Whether no field of a node is written twice. -/
def nodeHasOnce (tree : Written) : Bool :=
  tree.hasOnce (NodeKind.tag :: Node.fields.keys) &&
    ((writtenKind? NodeType.names NodeKind.tag tree).all fun type =>
      tree.hasOnce (NodeKind.fields type).keys) &&
    ((tree.member? "filters").all fun filters => filters.hasOnce [Filters.requiresAnyKey]) &&
    (tree.member? "position").all positionHasOnce

/-- Whether no field of an edge is written twice. -/
def edgeHasOnce (tree : Written) : Bool :=
  tree.hasOnce (EdgeKind.tag :: Edge.fields.keys) &&
    (writtenKind? EdgeType.names EdgeKind.tag tree).all fun type =>
      tree.hasOnce (EdgeKind.fields type).keys

/-- Whether all images of a node can be read. -/
def nodeHasReadable (tree : Written) : Bool :=
  (tree.member? Node.imagesKey).all (Written.hasReadable ImageUrls.read)

/-- Whether all probabilities of a spawn edge can be read. -/
def edgeHasReadable (tree : Written) : Bool :=
  writtenKind? EdgeType.names EdgeKind.tag tree != some .spawn ||
    (tree.member? EdgeKind.sublocationsKey).all (Written.hasReadable Reader.double)

/-- The trees of the nodes and of the edges of a snapshot, which may be an array of the two. -/
def parts (tree : Written) : List Written × List Written :=
  match tree with
  | .array items =>
    ((items[0]?.map Written.items).getD [], (items[1]?.map Written.items).getD [])
  | tree =>
    (((tree.member? "nodes").map Written.items).getD [],
      ((tree.member? "edges").map Written.items).getD [])

/-- Whether no field is written twice in a snapshot. -/
def hasOnce (tree : Written) : Bool :=
  tree.hasOnce Snapshot.fields.keys && (parts tree).1.all nodeHasOnce &&
    (parts tree).2.all edgeHasOnce

/-- Whether all values in the tables of a snapshot can be read. -/
def hasReadable (tree : Written) : Bool :=
  (parts tree).1.all nodeHasReadable && (parts tree).2.all edgeHasReadable

/-- A node without what is not looked at. -/
def prunedNode (tree : Written) : Written :=
  tree.mapMember "position" (Written.keepOnly Position.fields.keys)

/-- A snapshot without what is not looked at. -/
def pruned (tree : Written) : Written :=
  match tree with
  | .array (nodes :: rest) => .array (nodes.mapItems prunedNode :: rest)
  | tree =>
    (tree.keepOnly Snapshot.fields.keys).mapMember "nodes" fun nodes => nodes.mapItems prunedNode

/-- Reads the text of a snapshot. -/
def parse (text : String) : Option Snapshot := do
  let tree ← Written.parse text
  if !hasOnce tree || !hasReadable tree then none
  let value ← (pruned tree).value? Written.maxDepth
  (Snapshot.read value).toOption

end Snapshot

end StoryWorld

import StoryWorld.Graph.Edge
import StoryWorld.Graph.Node
import StoryWorld.Graph.Refusal

/-!
# Patches

A patch sets some fields of an element and leaves the others alone. It applies to an element only
if every field it sets is one that elements of that kind carry; otherwise it is refused as a whole,
for the first field, in a fixed order, that is not carried. The identity, the kind and the ends of
an element cannot be patched.
-/

set_option autoImplicit false

namespace StoryWorld

/-- Whether nodes of a kind carry a field. -/
def NodeType.carries : NodeType → NodeField → Bool
  | _, .name | _, .images | _, .position => true
  | type, .keywords | type, .content | type, .filters => decide (type ≠ .sublocation)
  | type, .contentShort => decide (type = .location ∨ type = .character)
  | type, .disabledFor => decide (type = .character)
  | type, .timeFilter | type, .isGlobal | type, .globalSpawnChance => decide (type = .event)

/-- Whether edges of a kind carry a field. -/
def EdgeType.carries : EdgeType → EdgeField → Bool
  | type, .probability | type, .sublocationProbabilities => decide (type = .spawn)
  | type, .relationship | type, .sourceThinks | type, .targetThinks => decide (type = .knows)

/-- New values for some fields of a node. -/
structure NodePatch where
  name : Option String := none
  keywords : Option (List String) := none
  content : Option String := none
  contentShort : Option String := none
  images : Option Images := none
  filters : Option Filters := none
  position : Option Position := none
  disabledFor : Option (List String) := none
  timeFilter : Option (List String) := none
  isGlobal : Option Bool := none
  globalSpawnChance : Option Float := none
  deriving DecidableEq

namespace NodePatch

/-- Whether the patch sets a field. -/
def sets (patch : NodePatch) : NodeField → Bool
  | .name => patch.name.isSome
  | .keywords => patch.keywords.isSome
  | .content => patch.content.isSome
  | .contentShort => patch.contentShort.isSome
  | .images => patch.images.isSome
  | .filters => patch.filters.isSome
  | .position => patch.position.isSome
  | .disabledFor => patch.disabledFor.isSome
  | .timeFilter => patch.timeFilter.isSome
  | .isGlobal => patch.isGlobal.isSome
  | .globalSpawnChance => patch.globalSpawnChance.isSome

/-- The order in which the fields of a patch are looked at. -/
def checkOrder : List NodeField :=
  [.name, .images, .position, .keywords, .content, .filters, .contentShort, .disabledFor,
    .timeFilter, .isGlobal, .globalSpawnChance]

/-- The first field that the patch sets and nodes of a kind do not carry. -/
def offending? (patch : NodePatch) (type : NodeType) : Option NodeField :=
  checkOrder.find? fun field => patch.sets field && !type.carries field

/-- The data of one kind of node with the new values. -/
def onKind (patch : NodePatch) : NodeKind → NodeKind
  | .location => .location
  | .character disabledFor => .character (patch.disabledFor.getD disabledFor)
  | .event timeFilter isGlobal globalSpawnChance =>
    .event (patch.timeFilter.getD timeFilter) (patch.isGlobal.getD isGlobal)
      (patch.globalSpawnChance.getD globalSpawnChance)
  | .sublocation parent => .sublocation parent

/-- A node with the new values. -/
def onNode (patch : NodePatch) (node : Node) : Node where
  id := node.id
  name := patch.name.getD node.name
  keywords := patch.keywords.getD node.keywords
  content := patch.content.getD node.content
  contentShort := patch.contentShort.or node.contentShort
  images := patch.images.getD node.images
  filters := patch.filters.getD node.filters
  position := patch.position.getD node.position
  kind := patch.onKind node.kind

/-- Applies the patch to a node if every field applies. -/
def apply (patch : NodePatch) (node : Node) : Except Refusal Node :=
  match patch.offending? node.type with
  | some field => .error (.inapplicableField node.id node.type field)
  | none => .ok (patch.onNode node)

end NodePatch

/-- New values for some fields of an edge. -/
structure EdgePatch where
  probability : Option Float := none
  sublocationProbabilities : Option (Table String Float) := none
  relationship : Option String := none
  sourceThinks : Option String := none
  targetThinks : Option String := none
  deriving DecidableEq

namespace EdgePatch

/-- Whether the patch sets a field. -/
def sets (patch : EdgePatch) : EdgeField → Bool
  | .probability => patch.probability.isSome
  | .sublocationProbabilities => patch.sublocationProbabilities.isSome
  | .relationship => patch.relationship.isSome
  | .sourceThinks => patch.sourceThinks.isSome
  | .targetThinks => patch.targetThinks.isSome

/-- The order in which the fields of a patch are looked at. -/
def checkOrder : List EdgeField :=
  [.probability, .sublocationProbabilities, .relationship, .sourceThinks, .targetThinks]

/-- The first field that the patch sets and edges of a kind do not carry. -/
def offending? (patch : EdgePatch) (type : EdgeType) : Option EdgeField :=
  checkOrder.find? fun field => patch.sets field && !type.carries field

/-- The data of one kind of edge with the new values. -/
def onKind (patch : EdgePatch) : EdgeKind → EdgeKind
  | .spawn probability overrides =>
    .spawn (patch.probability.getD probability) (patch.sublocationProbabilities.getD overrides)
  | .adjacent => .adjacent
  | .knows relationship sourceThinks targetThinks =>
    .knows (patch.relationship.getD relationship) (patch.sourceThinks.getD sourceThinks)
      (patch.targetThinks.getD targetThinks)

/-- An edge with the new values. -/
def onEdge (patch : EdgePatch) (edge : Edge) : Edge :=
  { edge with kind := patch.onKind edge.kind }

/-- Applies the patch to an edge if every field applies. -/
def apply (patch : EdgePatch) (edge : Edge) : Except Refusal Edge :=
  match patch.offending? edge.type with
  | some field => .error (.inapplicableEdgeField edge.id edge.type field)
  | none => .ok (patch.onEdge edge)

end EdgePatch

end StoryWorld

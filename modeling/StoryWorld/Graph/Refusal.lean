import StoryWorld.Graph.Identity
import StoryWorld.Text.Quoted

/-!
# Refusals

Why a world, or a change to it, is refused. `Refusal.message` words the refusal.
-/

set_option autoImplicit false

namespace StoryWorld

/-- The fields of a node that can be changed. -/
inductive NodeField where
  | name
  | keywords
  | content
  | contentShort
  | images
  | filters
  | position
  | disabledFor
  | timeFilter
  | isGlobal
  | globalSpawnChance
  deriving DecidableEq

/-- The fields of an edge that can be changed. -/
inductive EdgeField where
  | probability
  | sublocationProbabilities
  | relationship
  | sourceThinks
  | targetThinks
  deriving DecidableEq

/-- The key that a field of a node is written under. -/
def NodeField.key : NodeField → String
  | .name => "name"
  | .keywords => "keywords"
  | .content => "content"
  | .contentShort => "contentShort"
  | .images => "images"
  | .filters => "filters"
  | .position => "position"
  | .disabledFor => "disabledFor"
  | .timeFilter => "timeFilter"
  | .isGlobal => "isGlobal"
  | .globalSpawnChance => "globalSpawnChance"

/-- The key that a field of an edge is written under. -/
def EdgeField.key : EdgeField → String
  | .probability => "probability"
  | .sublocationProbabilities => "sublocationProbabilities"
  | .relationship => "relationship"
  | .sourceThinks => "sourceThinks"
  | .targetThinks => "targetThinks"

/-- Why a world, or a change to it, is refused. -/
inductive Refusal where
  | unknownElement (id : ElementId)
  | danglingEdge (edge node : ElementId)
  | notALocation (id : ElementId)
  | orphanedSublocation (id parent : ElementId)
  | sublocationRequiresParent
  | idsExhausted (scope : IdScope)
  | duplicateId (id : ElementId)
  /-- A change meant for one of the two scopes at an element of the other. -/
  | patchMismatch (id : ElementId) (expected : IdScope)
  | inapplicableField (id : ElementId) (type : NodeType) (field : NodeField)
  | inapplicableEdgeField (id : ElementId) (type : EdgeType) (field : EdgeField)
  | invalidConnection (source target : NodeType) (requested : EdgeType)
  | unconnectable (source target : NodeType)
  | selfConnection (id : ElementId)
  | globalEventSpawn (id : ElementId)
  deriving DecidableEq

/-- The wording of a refusal. -/
def Refusal.message : Refusal → String
  | .unknownElement id => "no element with id " ++ id.text
  | .danglingEdge edge node => "edge " ++ edge.text ++ " references missing node " ++ node.text
  | .notALocation id => id.text ++ " is not a location"
  | .orphanedSublocation id parent =>
    "sublocation " ++ id.text ++ " has no location parent " ++ parent.text
  | .sublocationRequiresParent => "sublocations must be created under a parent location"
  | .idsExhausted scope => scope.name ++ " identifiers are exhausted"
  | .duplicateId id => "duplicate element id " ++ id.text
  | .patchMismatch id expected => "cannot apply a " ++ expected.name ++ " patch to " ++ id.text
  | .inapplicableField id type field =>
    "field " ++ Text.ticked field.key ++ " does not apply to " ++ type.name ++ " " ++ id.text
  | .inapplicableEdgeField id type field =>
    "field " ++ Text.ticked field.key ++ " does not apply to " ++ type.name ++ " edge " ++ id.text
  | .invalidConnection source target requested =>
    "cannot connect " ++ source.name ++ " to " ++ target.name ++ " with a " ++ requested.name ++
      " edge"
  | .unconnectable source target => source.name ++ " cannot be connected to " ++ target.name
  | .selfConnection id => "cannot connect " ++ id.text ++ " to itself"
  | .globalEventSpawn id =>
    "global event " ++ id.text ++ " spawns anywhere and takes no spawn edges"

end StoryWorld

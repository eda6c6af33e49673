import StoryWorld.Graph.Refusal
import StoryWorld.Json.Fault

/-!
# Import reports

What an import could not carry over exactly, in the order in which it was found. A finding never
stops an import. `Finding.message` words a finding, and `Report.summary` counts the findings of
each sort.
-/

set_option autoImplicit false

namespace StoryWorld

/-- The fields of an entry whose keys refer to other entries. -/
inductive ReferenceField where
  | canSpawnAt
  | triggers
  | knows
  deriving DecidableEq

/-- The key of a field that refers to other entries. -/
def ReferenceField.key : ReferenceField → String
  | .canSpawnAt => "canSpawnAt"
  | .triggers => "triggers"
  | .knows => "knows"

/-- One thing that an import could not carry over exactly. -/
inductive Finding where
  /-- A key of an entry that matches nothing. -/
  | unresolvedReference (entry : String) (field : ReferenceField) (key : String)
  /-- A keyword of a node that belongs to an earlier node already. -/
  | keywordCollision (scope : NodeType) (keyword : String) (kept ignored : ElementId)
  /-- A name of a sublocation that belongs to an earlier sublocation already. -/
  | sublocationCollision (name : String) (kept ignored : ElementId)
  /-- An entry that is about nothing known. -/
  | unknownCategory (index : Nat) (category : String)
  /-- An item of a lorebook that is no entry. -/
  | malformedEntry (index : Nat) (reason : Json.Fault)
  /-- An edge that the rules of connection do not allow. -/
  | rejectedConnection (source target : ElementId) (reason : Refusal)
  deriving DecidableEq

namespace Finding

/-- The wording of a finding. -/
def message : Finding → String
  | .unresolvedReference entry field key =>
    entry ++ ": " ++ field.key ++ " key '" ++ key ++ "' matches nothing"
  | .keywordCollision scope keyword kept ignored =>
    scope.name ++ " keyword '" ++ keyword ++ "' already belongs to " ++ kept.text ++
      "; ignored for " ++ ignored.text
  | .sublocationCollision name kept ignored =>
    "sublocation name '" ++ name ++ "' already belongs to " ++ kept.text ++ "; ignored for " ++
      ignored.text
  | .unknownCategory index category =>
    "entry " ++ Json.integerText index ++ " skipped: unknown category '" ++ category ++ "'"
  | .malformedEntry index reason =>
    "entry " ++ Json.integerText index ++ " skipped: " ++ reason.message
  | .rejectedConnection source target reason =>
    "edge " ++ source.text ++ " -> " ++ target.text ++ " rejected: " ++ reason.message

/-- Whether the finding is about a key that matches nothing. -/
def isUnresolved : Finding → Bool
  | .unresolvedReference .. => true
  | _ => false

/-- Whether the finding is about a word that belongs to something else. -/
def isCollision : Finding → Bool
  | .keywordCollision .. | .sublocationCollision .. => true
  | _ => false

/-- Whether the finding is about an entry that is left out. -/
def isSkipped : Finding → Bool
  | .unknownCategory .. | .malformedEntry .. => true
  | _ => false

/-- The written form of a finding: its sort, then what it says. -/
def toJson : Finding → Json
  | .unresolvedReference entry field key =>
    .object [("kind", .string "unresolvedReference"), ("entry", .string entry),
      ("field", .string field.key), ("key", .string key)]
  | .keywordCollision scope keyword kept ignored =>
    .object [("kind", .string "keywordCollision"), ("scope", .string scope.name),
      ("keyword", .string keyword), ("kept", .string kept.text),
      ("ignored", .string ignored.text)]
  | .sublocationCollision name kept ignored =>
    .object [("kind", .string "sublocationCollision"), ("name", .string name),
      ("kept", .string kept.text), ("ignored", .string ignored.text)]
  | .unknownCategory index category =>
    .object [("kind", .string "unknownCategory"), ("index", .ofNat index),
      ("category", .string category)]
  | .malformedEntry index reason =>
    .object [("kind", .string "malformedEntry"), ("index", .ofNat index),
      ("reason", .string reason.message)]
  | .rejectedConnection source target reason =>
    .object [("kind", .string "rejectedConnection"), ("source", .string source.text),
      ("target", .string target.text), ("reason", .string reason.message)]

end Finding

/-- The findings of an import, in order. -/
structure Report where
  findings : List Finding
  deriving DecidableEq

namespace Report

/-- The keys that match nothing. -/
def unresolved (report : Report) : List Finding := report.findings.filter Finding.isUnresolved

/-- The words that belong to something else. -/
def collisions (report : Report) : List Finding := report.findings.filter Finding.isCollision

/-- The entries that are left out. -/
def skipped (report : Report) : List Finding := report.findings.filter Finding.isSkipped

/-- The number of findings of each sort, in words. -/
def summary (report : Report) : String :=
  "unresolved references: " ++ Json.integerText report.unresolved.length ++ ", collisions: " ++
    Json.integerText report.collisions.length ++ ", skipped entries: " ++
    Json.integerText report.skipped.length

end Report

end StoryWorld

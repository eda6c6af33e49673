import StoryWorld.Config.Basic
import StoryWorld.Json.Written
import StoryWorld.Lore.Draft
import StoryWorld.Lore.Reading

/-!
# Worlds from lorebooks

A lorebook says the same relation in several places: triggers, spawn tables, and what characters
know of each other. An import makes the nodes of the entries and derives the edges from these
places again, in four passes over a draft of the world:

- the locations with their sublocations, which declare their keywords and names;
- the characters and events in the order of the lorebook, with spawn edges to the places that their
  tables resolve to;
- the adjacency edges, one for each pair of locations of which one has a trigger for the other;
- the acquaintances, one edge for each pair of characters of which one knows the other.

Whether there are ordinals for all elements is looked up when everything is made; `importInSteps`
asks for them one by one.

A lorebook is given as a list of entries, as a JSON value, or as a text. In a value every item is
read by itself, so that one that is no entry does not affect the others.
-/

set_option autoImplicit false

namespace StoryWorld

/-- A rebuilt world and what could not be carried over. -/
structure Outcome where
  world : Snapshot
  report : Report
  deriving DecidableEq

/-- Why a lorebook cannot be imported at all. -/
inductive ImportError where
  /-- The text is no JSON. -/
  | notJson
  /-- The value is neither a list of entries nor an object. -/
  | notADocument (found : Json)
  /-- The object has no list of entries. -/
  | noEntries
  | unsupportedVersion (found : Json)
  | refused (why : Refusal)
  deriving DecidableEq

/-- What kind of value has been found in place of a lorebook. -/
def Json.kind : Json → String
  | .null => "null"
  | .boolean _ => "a boolean"
  | .integer _ | .double .. => "a number"
  | .string _ => "a string"
  | .array _ => "an array"
  | .object _ => "an object"

/-- The wording of a failed import. -/
def ImportError.message : ImportError → String
  | .notJson => "lorebook is not valid JSON"
  | .notADocument found =>
    "invalid lorebook document: expected an array of entries or an object, found " ++ found.kind
  | .noEntries => "invalid lorebook document: object has no " ++ Text.ticked "entries" ++ " array"
  | .unsupportedVersion found =>
    "unsupported lorebook schema version " ++ found.compact ++ " (expected " ++
      Json.integerText Document.currentVersion ++ ")"
  | .refused why => "cannot build graph: " ++ why.message

namespace Draft

/-- The finding about an entry of unknown category. -/
def unknownCategory? (item : Nat × Entry) : Option Finding :=
  match item.2.category with
  | .other name => some (.unknownCategory item.1 name)
  | _ => none

/-! ## Passes -/

/-- A draft, and the entries that nodes have been made of so far. -/
structure Pass where
  draft : Draft
  made : List (ElementId × Entry)
  deriving DecidableEq

/-- The pass over the locations. -/
def locationPass (config : Config) (total : Nat) (draft : Draft) (items : List (Nat × Entry)) :
    Pass :=
  items.foldl
    (fun pass item =>
      if item.2.category = .location then
        ⟨pass.draft.addLocation config.graph item.2 (config.layout.gridPosition item.1 total),
          pass.made ++ [(pass.draft.nextNodeId .location, item.2)]⟩
      else pass)
    ⟨draft, []⟩

/-- The pass over the characters and events. -/
def castPass (config : Config) (total : Nat) (draft : Draft) (items : List (Nat × Entry)) :
    Pass :=
  items.foldl
    (fun pass item =>
      let position := config.layout.gridPosition item.1 total
      match item.2.category with
      | .character =>
        ⟨pass.draft.addCharacter config.graph item.2 position,
          pass.made ++ [(pass.draft.nextNodeId .character, item.2)]⟩
      | .event => { pass with draft := pass.draft.addEvent config.graph item.2 position }
      | _ => pass)
    ⟨draft, []⟩

/-- The pass over the triggers of the locations. -/
def adjacencyPass (draft : Draft) (locations : List (ElementId × Entry)) : Draft :=
  locations.foldl
    (fun draft location =>
      location.2.triggers.foldl (addAdjacency location.2.name location.1) draft)
    draft

/-- The pass over the acquaintances of the characters. -/
def acquaintancePass (draft : Draft) (cast : List (ElementId × Entry)) : Draft :=
  cast.foldl
    (fun draft member =>
      (member.2.knows.getD .empty).entries.foldl
        (addAcquaintance cast member.1 member.2.name) draft)
    draft

/-- All passes over the entries of a lorebook, each given with its place among all items. -/
def assemble (config : Config) (total : Nat) (items : List (Nat × Entry))
    (findings : List Finding) : Draft :=
  let draft := Draft.start (findings ++ items.filterMap unknownCategory?)
  let locations := locationPass config total draft items
  let cast := castPass config total locations.draft items
  let draft := adjacencyPass cast.draft locations.made
  acquaintancePass draft cast.made

/-- The world of a finished draft, if there are ordinals for all its elements. -/
def finish (draft : Draft) : Except ImportError Outcome :=
  if ElementId.maxOrdinal < draft.nodes.length then .error (.refused (.idsExhausted .node))
  else if ElementId.maxOrdinal < draft.edges.length then .error (.refused (.idsExhausted .edge))
  else .ok ⟨⟨draft.nodes, draft.edges⟩, ⟨draft.findings⟩⟩

end Draft

/-! ## Lorebooks in their several forms -/

/-- Imports a list of entries. -/
def importEntries (config : Config) (entries : List Entry) : Except ImportError Outcome :=
  (Draft.assemble config entries.length ((List.range entries.length).zip entries) []).finish

/-- The entries that can be read in a lorebook, with their places; how many items there are; and
what was found in those that cannot be read. -/
structure ReadEntries where
  items : List (Nat × Entry)
  total : Nat
  findings : List Finding
  deriving DecidableEq

/-- The items of a lorebook: a list, or the list in an object of the current version. -/
def lorebookItems : Json → Except ImportError (List Json)
  | .array items => .ok items
  | .object members => do
    match members.lookup "schemaVersion" with
    | none | some .null => pure ()
    | some version =>
      if version ≠ .ofNat Document.currentVersion then throw (.unsupportedVersion version)
    match members.lookup "entries" with
    | some (.array items) => return items
    | _ => throw .noEntries
  | found => .error (.notADocument found)

/-- Reads the items of a lorebook one by one, so that one that is no entry does not affect the
others. -/
def readEntries (document : Json) : Except ImportError ReadEntries := do
  let items ← lorebookItems document
  let results := (List.range items.length).zip (items.map Entry.read)
  return {
    items := results.filterMap fun result => result.2.toOption.map fun entry => (result.1, entry)
    total := items.length
    findings := results.filterMap fun result =>
      match result.2 with
      | .ok _ => none
      | .error reason => some (.malformedEntry result.1 reason) }

/-- Imports a lorebook. -/
def importJson (config : Config) (document : Json) : Except ImportError Outcome := do
  let parsed ← readEntries document
  (Draft.assemble config parsed.total parsed.items parsed.findings).finish

/-- Imports the text of a lorebook. -/
def importText (config : Config) (text : String) : Except ImportError Outcome :=
  match Json.parse text with
  | some document => importJson config document
  | none => .error .notJson

end StoryWorld

import StoryWorld.Graph.Node

/-!
# Lorebook entries

A lorebook is a list of entries, each about one location, character or event. Entries refer to each
other by keywords: the first keyword of an entry is its own, and the keys of its tables and the
items of its triggers are those of others. Fields that only some categories have are optional.
-/

set_option autoImplicit false

namespace StoryWorld

/-- What an entry is about; any other word is kept so that it can be reported. -/
inductive Category where
  | location
  | character
  | event
  | other (name : String)
  deriving DecidableEq

namespace Category

/-- The category that a word names. -/
def ofName (name : String) : Category :=
  if name = "location" then .location
  else if name = "character" then .character
  else if name = "event" then .event
  else .other name

/-- The word for a category. -/
def name : Category → String
  | .location => "location"
  | .character => "character"
  | .event => "event"
  | .other name => name

/-- The kind of node that an entry becomes. -/
def nodeType : Category → Option NodeType
  | .location => some .location
  | .character => some .character
  | .event => some .event
  | .other _ => none

end Category

/-- What one character knows about another. -/
structure Acquaintance where
  relationship : String
  thoughts : String
  deriving DecidableEq

/-- A sublocation as listed under its location. -/
structure SublocationEntry where
  images : Images
  deriving DecidableEq

/-- One entry of a lorebook. -/
structure Entry where
  keywords : List String
  category : Category
  name : String
  content : String
  contentShort : String
  /-- First keywords of related entries. -/
  triggers : List String
  /-- Probabilities by keyword of a location or name of a sublocation. -/
  canSpawnAt : Option (Table String Float)
  timeFilter : Option (List String)
  images : Images
  filters : Filters
  disabledFor : Option (List String)
  enabled : Bool
  /-- The sublocations of a location by name. -/
  subLocations : Option (Table String SublocationEntry)
  /-- What a character knows about others, by their keyword. -/
  knows : Option (Table String Acquaintance)
  deriving DecidableEq

namespace Entry

/-- An enabled entry with nothing but a category and a name. -/
def blank (category : Category) (name : String) : Entry where
  keywords := []
  category := category
  name := name
  content := ""
  contentShort := ""
  triggers := []
  canSpawnAt := none
  timeFilter := none
  images := .empty
  filters := .none
  disabledFor := none
  enabled := true
  subLocations := none
  knows := none

/-- The keyword that other entries know the entry by. -/
def firstKeyword (entry : Entry) : Option String := entry.keywords.head?

/-- The entry with the probability of one more place. -/
def withSpawn (entry : Entry) (key : String) (probability : Float) : Entry :=
  { entry with canSpawnAt := some ((entry.canSpawnAt.getD .empty).insert key probability) }

/-- The entry with one more sublocation, which has no images. -/
def withSublocation (entry : Entry) (name : String) : Entry :=
  { entry with subLocations := some ((entry.subLocations.getD .empty).insert name ⟨.empty⟩) }

/-- The entry with one more acquaintance. -/
def withAcquaintance (entry : Entry) (keyword : String) (acquaintance : Acquaintance) : Entry :=
  { entry with knows := some ((entry.knows.getD .empty).insert keyword acquaintance) }

/-- The probabilities of an entry; none where there is no table. -/
def spawnTable (entry : Entry) : Table String Float := entry.canSpawnAt.getD .empty

/-- The names of the sublocations of an entry. -/
def sublocationNames (entry : Entry) : List String := (entry.subLocations.getD .empty).keys

end Entry

/-- A lorebook with the version of its form. -/
structure Document where
  schemaVersion : Option Nat
  entries : List Entry
  deriving DecidableEq

/-- The version of the form that this library reads and writes. -/
def Document.currentVersion : Nat := 1

/-- A lorebook of the current form. -/
def Document.wrap (entries : List Entry) : Document := ⟨some currentVersion, entries⟩

end StoryWorld

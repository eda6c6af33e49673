import StoryWorld.Graph.Writing
import StoryWorld.Lore.Entry

/-!
# Lorebooks as JSON values

The written forms of entries and documents. Optional fields that are absent are left out; all
others are there, in the order of the fields.
-/

set_option autoImplicit false

namespace StoryWorld

/-- The written form of an acquaintance. -/
def Acquaintance.toJson (acquaintance : Acquaintance) : Json :=
  .object [("relationship", .string acquaintance.relationship),
    ("thoughts", .string acquaintance.thoughts)]

/-- The written form of a sublocation of an entry. -/
def SublocationEntry.toJson (sublocation : SublocationEntry) : Json :=
  .object [("images", sublocation.images.toJson)]

/-- A member that is left out when there is no value. -/
def Entry.member? {α : Type} (key : String) (write : α → Json) : Option α → List (String × Json)
  | some value => [(key, write value)]
  | none => []

/-- The written form of an entry. -/
def Entry.toJson (entry : Entry) : Json :=
  .object ([("keywords", .ofStrings entry.keywords), ("category", .string entry.category.name),
      ("name", .string entry.name), ("content", .string entry.content),
      ("contentShort", .string entry.contentShort), ("triggers", .ofStrings entry.triggers)] ++
    Entry.member? "canSpawnAt" (.ofTable .ofFloat) entry.canSpawnAt ++
    Entry.member? "timeFilter" .ofStrings entry.timeFilter ++
    [("images", entry.images.toJson), ("filters", entry.filters.toJson)] ++
    Entry.member? "disabledFor" .ofStrings entry.disabledFor ++
    [("enabled", .boolean entry.enabled)] ++
    Entry.member? "subLocations" (.ofTable SublocationEntry.toJson) entry.subLocations ++
    Entry.member? "knows" (.ofTable Acquaintance.toJson) entry.knows)

/-- The written form of a list of entries. -/
def Entry.listToJson (entries : List Entry) : Json := .array (entries.map Entry.toJson)

/-- The written form of a document; a version that is absent is left out. -/
def Document.toJson (document : Document) : Json :=
  .object (Entry.member? "schemaVersion" .ofNat document.schemaVersion ++
    [("entries", Entry.listToJson document.entries)])

end StoryWorld

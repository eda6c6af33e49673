import StoryWorld.Graph.Reading
import StoryWorld.Lore.Entry

/-!
# Lorebooks from JSON values

The readers of entries and documents. A field of an entry that is null counts as missing, and a
missing field has its default: entries are enabled, and optional fields absent.
-/

set_option autoImplicit false

namespace StoryWorld

open Json

/-- Reads a category. -/
def Category.read : Reader Category := fun value => (Reader.string value).map Category.ofName

/-- Reads an acquaintance. -/
def Acquaintance.read : Reader Acquaintance :=
  Fields.reader
    (Acquaintance.mk <$> .withDefault "relationship" "" Reader.string
      <*> .withDefault "thoughts" "" Reader.string)
    "struct Acquaintance"

/-- Reads a sublocation of an entry. -/
def SublocationEntry.read : Reader SublocationEntry :=
  Fields.reader (SublocationEntry.mk <$> .withDefault "images" .empty Images.read)
    "struct SubLocationEntry"

/-- A field that is missing or null when it has its default. -/
def Entry.defaulted {α : Type} (key : String) (default : α) (reader : Reader α) : Fields α :=
  .withDefault key default (Reader.orDefault default reader)

/-- A field that is missing or null when it is absent. -/
def Entry.maybe {α : Type} (key : String) (reader : Reader α) : Fields (Option α) :=
  .withDefault key none (Reader.optional reader)

/-- The fields of an entry. -/
def Entry.fields : Fields Entry :=
  Entry.mk <$> Entry.defaulted "keywords" [] readStrings
    <*> Entry.defaulted "category" (.other "") Category.read
    <*> Entry.defaulted "name" "" Reader.string
    <*> Entry.defaulted "content" "" Reader.string
    <*> Entry.defaulted "contentShort" "" Reader.string
    <*> Entry.defaulted "triggers" [] readStrings
    <*> Entry.maybe "canSpawnAt" (Reader.table Reader.double)
    <*> Entry.maybe "timeFilter" readStrings
    <*> Entry.defaulted "images" .empty Images.read
    <*> Entry.defaulted "filters" .none Filters.read
    <*> Entry.maybe "disabledFor" readStrings
    <*> Entry.defaulted "enabled" true Reader.boolean
    <*> Entry.maybe "subLocations" (Reader.table SublocationEntry.read)
    <*> Entry.maybe "knows" (Reader.table Acquaintance.read)

/-- Reads an entry. -/
def Entry.read : Reader Entry := Entry.fields.reader "struct LoreEntry"

/-- The fields of a document. -/
def Document.fields : Fields Document :=
  Document.mk <$> .withDefault "schemaVersion" none (Reader.optional Reader.counter)
    <*> .withDefault "entries" [] (Reader.list Entry.read)

/-- Reads a document. -/
def Document.read : Reader Document := Document.fields.reader "struct LorebookDocument"

end StoryWorld

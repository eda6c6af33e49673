import StoryWorld.Lore.Reading
import StoryWorld.Proofs.Json.Reading

/-!
# Entries from what an object states

Under each of its keys an object states a value, unless nothing or null is there (`Json.stated`).
A field of an entry is read from what is stated under its key, and has its default where nothing
is (`Entry.ReadAs`). So an entry is given by what is stated under its fourteen keys
(`Entry.read_object_iff`), and neither the order of the members, nor nulls, nor members with other
keys make a difference (`Entry.read_eq_of_stated_eq`).
-/

set_option autoImplicit false

namespace StoryWorld

open Json

/-- What an object states under a key: the value there, unless it is null. -/
def Json.stated (members : List (String × Json)) (key : String) : Option Json :=
  match members.lookup key with
  | some .null | none => none
  | some value => some value

/-- A member that is not null is stated. -/
theorem Json.stated_eq_lookup {members : List (String × Json)} {key : String}
    (written : ∀ value ∈ members.lookup key, value ≠ .null) :
    stated members key = members.lookup key := by
  unfold stated
  split
  · rename_i null
    exact absurd rfl (written .null null)
  · rename_i absent
    exact absent.symm
  · rename_i found
    exact found.symm

/-- The keys of an entry. -/
def Entry.keys : List String :=
  ["keywords", "category", "name", "content", "contentShort", "triggers", "canSpawnAt",
    "timeFilter", "images", "filters", "disabledFor", "enabled", "subLocations", "knows"]

/-- These are the keys that are looked at, in this order. -/
theorem Entry.keys_fields : Entry.fields.keys = Entry.keys := rfl

section Fields

variable {α : Type}

/-- The value of a field by what is stated under its key: it is read from that, and is the default
where nothing is stated. -/
def Entry.ReadAs (default : α) (reader : Reader α) (value : α) : Option Json → Prop
  | some json => reader json = .ok value
  | none => value = default

/-- The reader of a value that is there, for a field that may be absent. -/
def Entry.present (reader : Reader α) : Reader (Option α) := fun json => (reader json).map some

theorem Entry.maybe_eq_defaulted (key : String) (reader : Reader α) :
    Entry.maybe key reader = Entry.defaulted key none (Entry.present reader) := by
  have same : Reader.optional reader = Reader.orDefault none (Entry.present reader) := by
    funext json
    cases json <;> rfl
  rw [maybe, defaulted, same]

variable {members : List (String × Json)} (distinct : (members.map Prod.fst).Nodup)

include distinct

/-- A field is read from what is stated under its key, and from nothing else. -/
theorem Entry.reads_defaulted_iff {key : String} {default value : α} {reader : Reader α} :
    (Entry.defaulted key default reader).Reads members value ↔
      Entry.ReadAs default reader value (stated members key) := by
  have left_out : Except.ok default = (.ok value : Except Fault α) ↔ value = default :=
    ⟨fun same => (Except.ok.inj same).symm, fun same => congrArg Except.ok same.symm⟩
  rw [defaulted, Fields.withDefault, Fields.reads_field_iff distinct]
  simp only [Fields.field, stated]
  cases members.lookup key with
  | none => exact left_out
  | some found =>
    cases found with
    | null => exact left_out
    | boolean | integer | double | string | array | object => rfl

theorem Entry.reads_maybe_iff {key : String} {value : Option α} {reader : Reader α} :
    (Entry.maybe key reader).Reads members value ↔
      Entry.ReadAs none (Entry.present reader) value (stated members key) := by
  rw [maybe_eq_defaulted, Entry.reads_defaulted_iff distinct]

end Fields

namespace Entry

/-- An entry is given by what is stated under each of its keys. -/
@[mk_iff]
structure StatedBy (stated : String → Option Json) (entry : Entry) : Prop where
  keywords : ReadAs [] readStrings entry.keywords (stated "keywords")
  category : ReadAs (.other "") Category.read entry.category (stated "category")
  name : ReadAs "" Reader.string entry.name (stated "name")
  content : ReadAs "" Reader.string entry.content (stated "content")
  contentShort : ReadAs "" Reader.string entry.contentShort (stated "contentShort")
  triggers : ReadAs [] readStrings entry.triggers (stated "triggers")
  canSpawnAt : ReadAs none (present (Reader.table Reader.double)) entry.canSpawnAt
    (stated "canSpawnAt")
  timeFilter : ReadAs none (present readStrings) entry.timeFilter (stated "timeFilter")
  images : ReadAs .empty Images.read entry.images (stated "images")
  filters : ReadAs .none Filters.read entry.filters (stated "filters")
  disabledFor : ReadAs none (present readStrings) entry.disabledFor (stated "disabledFor")
  enabled : ReadAs true Reader.boolean entry.enabled (stated "enabled")
  subLocations : ReadAs none (present (Reader.table SublocationEntry.read)) entry.subLocations
    (stated "subLocations")
  knows : ReadAs none (present (Reader.table Acquaintance.read)) entry.knows (stated "knows")

/-- The fields about which nothing is stated have their defaults. -/
structure DefaultsWhere (unstated : String → Prop) (entry : Entry) : Prop where
  keywords : unstated "keywords" → entry.keywords = []
  category : unstated "category" → entry.category = .other ""
  name : unstated "name" → entry.name = ""
  content : unstated "content" → entry.content = ""
  contentShort : unstated "contentShort" → entry.contentShort = ""
  triggers : unstated "triggers" → entry.triggers = []
  canSpawnAt : unstated "canSpawnAt" → entry.canSpawnAt = none
  timeFilter : unstated "timeFilter" → entry.timeFilter = none
  images : unstated "images" → entry.images = .empty
  filters : unstated "filters" → entry.filters = .none
  disabledFor : unstated "disabledFor" → entry.disabledFor = none
  enabled : unstated "enabled" → entry.enabled = true
  subLocations : unstated "subLocations" → entry.subLocations = none
  knows : unstated "knows" → entry.knows = none

theorem ReadAs.eq_default {α : Type} {default value : α} {reader : Reader α} {found : Option Json}
    (read : ReadAs default reader value found) (nothing : found = none) : value = default := by
  subst nothing
  exact read

variable {entry : Entry} {stated : String → Option Json}

theorem StatedBy.defaults (given : entry.StatedBy stated) :
    entry.DefaultsWhere fun key => stated key = none where
  keywords := given.keywords.eq_default
  category := given.category.eq_default
  name := given.name.eq_default
  content := given.content.eq_default
  contentShort := given.contentShort.eq_default
  triggers := given.triggers.eq_default
  canSpawnAt := given.canSpawnAt.eq_default
  timeFilter := given.timeFilter.eq_default
  images := given.images.eq_default
  filters := given.filters.eq_default
  disabledFor := given.disabledFor.eq_default
  enabled := given.enabled.eq_default
  subLocations := given.subLocations.eq_default
  knows := given.knows.eq_default

/-- What is stated under other keys does not matter. -/
theorem StatedBy.congr {other : String → Option Json}
    (same : ∀ key ∈ keys, stated key = other key) :
    entry.StatedBy stated ↔ entry.StatedBy other := by
  simp only [keys, List.forall_mem_cons, List.not_mem_nil, false_implies, implies_true,
    and_true] at same
  obtain ⟨keywords, category, name, content, contentShort, triggers, canSpawnAt, timeFilter,
    images, filters, disabledFor, enabled, subLocations, knows⟩ := same
  simp only [statedBy_iff, keywords, category, name, content, contentShort, triggers, canSpawnAt,
    timeFilter, images, filters, disabledFor, enabled, subLocations, knows]

/-- **An entry is read from what an object states under the keys of entries.** -/
theorem read_object_iff {members : List (String × Json)}
    (distinct : (members.map Prod.fst).Nodup) :
    Entry.read (.object members) = .ok entry ↔ entry.StatedBy (Json.stated members) := by
  have unfolded : Entry.read (.object members) = .ok entry ↔
      ∃ result, fields.Reads members result ∧ result = entry := by
    rw [exists_eq_right]
    exact Fields.readMembers_eq_ok_iff
  rw [unfolded, fields]
  simp only [Fields.exists_reads_seq, Fields.exists_reads_map, reads_defaulted_iff distinct,
    reads_maybe_iff distinct]
  constructor
  · rintro ⟨_, keywords, _, category, _, name, _, content, _, contentShort, _, triggers,
      _, canSpawnAt, _, timeFilter, _, images, _, filters, _, disabledFor, _, enabled,
      _, subLocations, _, knows, rfl⟩
    exact ⟨keywords, category, name, content, contentShort, triggers, canSpawnAt, timeFilter,
      images, filters, disabledFor, enabled, subLocations, knows⟩
  · intro given
    exact ⟨_, given.keywords, _, given.category, _, given.name, _, given.content,
      _, given.contentShort, _, given.triggers, _, given.canSpawnAt, _, given.timeFilter,
      _, given.images, _, given.filters, _, given.disabledFor, _, given.enabled,
      _, given.subLocations, _, given.knows, rfl⟩

/-- **Nulls, missing keys, other keys and the order of keys do not matter to the reading of an
entry.** Two objects that state the same under the keys of entries are both unreadable or are read
as the same entry, whose fields have their defaults where nothing is stated. -/
theorem read_eq_of_stated_eq {first second : List (String × Json)}
    (firstDistinct : (first.map Prod.fst).Nodup) (secondDistinct : (second.map Prod.fst).Nodup)
    (same : ∀ key ∈ keys, Json.stated first key = Json.stated second key) :
    (Entry.read (.object first)).toOption = (Entry.read (.object second)).toOption ∧
      ∀ entry, Entry.read (.object first) = .ok entry →
        entry.DefaultsWhere fun key => Json.stated first key = none := by
  refine ⟨toOption_eq_iff.2 fun entry => ?_, fun entry read => ?_⟩
  · rw [read_object_iff firstDistinct, read_object_iff secondDistinct, StatedBy.congr same]
  · exact ((read_object_iff firstDistinct).1 read).defaults

/-- A storm, written with nulls and an unknown key. -/
def nullStorm : List (String × Json) :=
  [("enabled", .null), ("keywords", .array [.string "Storm"]), ("mood", .integer 3),
    ("category", .string "event"), ("knows", .null)]

/-- The storm with its two keys turned round, and nothing else. -/
def turnedStorm : List (String × Json) :=
  [("category", .string "event"), ("keywords", .array [.string "Storm"])]

/-- Both are read as the same event, which has defaults for all but two fields. -/
theorem read_nullStorm :
    (Entry.read (.object nullStorm)).toOption = (Entry.read (.object turnedStorm)).toOption ∧
      Entry.read (.object nullStorm) = .ok { Entry.blank .event "" with keywords := ["Storm"] } ∧
      { Entry.blank .event "" with keywords := ["Storm"] }.DefaultsWhere fun key =>
        Json.stated nullStorm key = none := by
  have same : ∀ key ∈ keys, Json.stated nullStorm key = Json.stated turnedStorm key := by
    simp only [keys, List.forall_mem_cons]
    decide
  have alike := read_eq_of_stated_eq (by decide) (by decide) same
  exact ⟨alike.1, rfl, alike.2 _ rfl⟩

end Entry

end StoryWorld

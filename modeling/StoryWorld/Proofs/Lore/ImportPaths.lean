import StoryWorld.Lore.Import
import StoryWorld.Proofs.Lore.WrittenEntries

/-!
# The ways to import a lorebook

Entries that have been read are imported as they are, from the list that is written for them, from
the document that wraps this list, and from any object of the current version that has it under its
key; the outcome is the same (`importJson_written`). Whatever is read as an entry can be written
without loss (`Entry.writable_of_read`), so every item of the written list is read as the entry it
was written for, at its own place; and no import looks at an object beyond its version and its
items (`importJson_eq_of_items`).
-/

set_option autoImplicit false

namespace StoryWorld

open Json

/-! ## What has been read can be written -/

section Fields

variable {α : Type} {key : String} {reader : Reader α} {find : String → Option Json}

theorem Entry.build_of_defaulted {default value : α}
    (built : (Entry.defaulted key default reader).build find = .ok value) :
    value = default ∨ ∃ json, reader json = .ok value := by
  rcases Fields.build_of_withDefault built with same | ⟨json, read⟩
  · exact .inl same
  · cases json with
    | null => exact .inl (Except.ok.inj read).symm
    | boolean | integer | double | string | array | object => exact .inr ⟨_, read⟩

theorem Entry.build_of_maybe {value : Option α}
    (built : (Entry.maybe key reader).build find = .ok value) :
    ∀ given ∈ value, ∃ json, reader json = .ok given := by
  intro given member
  cases member
  rcases Fields.build_of_withDefault built with same | ⟨json, read⟩
  · cases same
  · cases json with
    | null => cases read
    | boolean | integer | double | string | array | object =>
      obtain ⟨_, read, same⟩ := map_eq_ok_iff.1 read
      cases same
      exact ⟨_, read⟩

end Fields

/-- The category that a word names is the one its own word names. -/
theorem Category.ofName_name_ofName (word : String) :
    Category.ofName (Category.ofName word).name = Category.ofName word := by
  by_cases location : word = "location"
  · rw [location]
    rfl
  by_cases character : word = "character"
  · rw [character]
    rfl
  by_cases event : word = "event"
  · rw [event]
    rfl
  simp only [Category.ofName, if_neg location, if_neg character, if_neg event, Category.name]

/-- **Nothing is lost when an entry that has been read is written.** -/
theorem Entry.writable_of_read {json : Json} {entry : Entry} (read : Entry.read json = .ok entry) :
    entry.Writable := by
  obtain ⟨find, built⟩ := Fields.exists_build read
  simp only [Entry.fields, Fields.build_seq_iff, Fields.build_map_iff] at built
  obtain ⟨_, ⟨_, ⟨_, ⟨_, ⟨_, ⟨_, ⟨_, ⟨_, ⟨_, ⟨_, ⟨_, ⟨_, ⟨_, ⟨keywords, -, rfl⟩, category,
    categoryBuilt, rfl⟩, name, -, rfl⟩, content, -, rfl⟩, contentShort, -, rfl⟩, triggers, -,
    rfl⟩, chances, chancesBuilt, rfl⟩, times, -, rfl⟩, images, -, rfl⟩, filters, filtersBuilt,
    rfl⟩, disabled, -, rfl⟩, enabled, -, rfl⟩, sublocations, -, rfl⟩, knows, -, rfl⟩ := built
  constructor
  case chances =>
    intro table given
    obtain ⟨_, read⟩ := Entry.build_of_maybe chancesBuilt table given
    exact Reader.forall_of_table (fun _ _ => Reader.isFinite_of_double) read
  case conditions =>
    rcases Entry.build_of_defaulted filtersBuilt with rfl | ⟨_, read⟩
    · exact List.not_mem_nil
    · exact conditions_of_read read
  case category =>
    rcases Entry.build_of_defaulted categoryBuilt with rfl | ⟨_, read⟩
    · rfl
    · obtain ⟨word, -, rfl⟩ := map_eq_ok_iff.1 read
      exact Category.ofName_name_ofName word

/-! ## What an import looks at -/

/-- Two documents with the same items are imported alike. -/
theorem importJson_eq_of_items {document other : Json}
    (same : lorebookItems document = lorebookItems other) (config : Config) :
    importJson config document = importJson config other := by
  simp only [importJson, readEntries, same]

/-- The items of an object of the current version are those under its key. -/
theorem lorebookItems_object {members : List (String × Json)} {items : List Json}
    (listed : members.lookup "entries" = some (.array items))
    (version : members.lookup "schemaVersion" ∈
      [none, some .null, some (.ofNat Document.currentVersion)]) :
    lorebookItems (.object members) = .ok items := by
  simp only [List.mem_cons, List.not_mem_nil, or_false] at version
  rcases version with version | version | version
  · simp only [lorebookItems, version, listed]
    rfl
  · simp only [lorebookItems, version, listed]
    rfl
  · simp only [lorebookItems, version, listed]
    rfl

/-- Entries that can be written are imported from the written list as they are. -/
theorem importJson_listToJson {entries : List Entry}
    (writable : ∀ entry ∈ entries, entry.Writable) (config : Config) :
    importJson config (Entry.listToJson entries) = importEntries config entries := by
  rw [importJson, readEntries_listToJson writable]
  rfl

/-! ## All ways are one -/

/-- **Entries that have been read are imported alike in all forms**: as they are, from the written
list, from the document that wraps it, and from every object of the current version that has it
under its key, whatever else the object holds. -/
theorem importJson_written {entries : List Entry}
    (read : ∀ entry ∈ entries, ∃ value, Entry.read value = .ok entry) (config : Config) :
    importJson config (Entry.listToJson entries) = importEntries config entries ∧
      importJson config (Document.wrap entries).toJson = importEntries config entries ∧
      ∀ members : List (String × Json),
        members.lookup "entries" = some (Entry.listToJson entries) →
        members.lookup "schemaVersion" ∈
          [none, some .null, some (.ofNat Document.currentVersion)] →
        importJson config (.object members) = importEntries config entries := by
  have writable : ∀ entry ∈ entries, entry.Writable := by
    intro entry member
    obtain ⟨value, read⟩ := read entry member
    exact Entry.writable_of_read read
  have list := importJson_listToJson writable config
  have objects : ∀ members : List (String × Json),
      members.lookup "entries" = some (Entry.listToJson entries) →
      members.lookup "schemaVersion" ∈
        [none, some .null, some (.ofNat Document.currentVersion)] →
      importJson config (.object members) = importEntries config entries := by
    intro members listed version
    rw [← list]
    exact importJson_eq_of_items (lorebookItems_object listed version) config
  have stamped : (Document.wrap entries).schemaVersion.map Json.ofNat ∈
      [none, some .null, some (.ofNat Document.currentVersion)] := by
    simp [Document.wrap]
  exact ⟨list, objects _ rfl stamped, objects⟩

/-- What three entries have been read from: a location given as a list, a character with fields
that are null and filters that nobody knows, and an event of a category that nobody knows. -/
def orchardItems : List Json :=
  [.array [.ofStrings ["orchard"], .string "location", .string "Orchard", .null, .string "Trees."],
    .object
      [("name", .string "Ada"), ("category", .string "character"), ("keywords", .ofStrings ["ada"]),
        ("canSpawnAt", .object [("orchard", .integer 1), ("Shed", .ofFloat 0.5)]),
        ("filters", .object [("moon", .object []), ("requiresAny", .ofStrings ["dusk"])]),
        ("images", .object [("day", .string "ada.png"), ("night", .array [])]),
        ("enabled", .null), ("timeFilter", .null), ("colour", .boolean true),
        ("knows", .object [("ada", .array [.string "herself"])])],
    .object [("category", .string "Event"), ("subLocations", .object [("Shed", .array [])])]]

/-- The entries in the orchard. -/
def orchard : List Entry :=
  [{ Entry.blank .location "Orchard" with keywords := ["orchard"], contentShort := "Trees." },
    { Entry.blank .character "Ada" with
      keywords := ["ada"]
      canSpawnAt := some (.ofList [("orchard", 1), ("Shed", 0.5)])
      filters := ⟨["dusk"], .ofList [("moon", .object [])]⟩
      images := .ofList [("day", .one "ada.png"), ("night", .many [])]
      knows := some (.ofList [("ada", ⟨"herself", ""⟩)]) },
    { Entry.blank (.other "Event") "" with subLocations := some (.ofList [("Shed", ⟨.empty⟩)]) }]

/-- The orchard under its key, the last of three. -/
def orchardObject : List (String × Json) :=
  [("title", .string "Orchard"), ("schemaVersion", .null), ("entries", Entry.listToJson orchard)]

theorem orchard_importJson :
    orchardItems.mapM Entry.read = .ok orchard ∧
      importJson {} (Entry.listToJson orchard) = importEntries {} orchard ∧
      importJson {} (Document.wrap orchard).toJson = importEntries {} orchard ∧
      importJson {} (.object orchardObject) = importEntries {} orchard ∧
      Entry.listToJson orchard ≠ .array orchardItems := by
  have read : orchardItems.mapM Entry.read = .ok orchard := by decide +kernel
  have all : ∀ entry ∈ orchard, ∃ value, Entry.read value = .ok entry := fun entry member =>
    have ⟨value, _, read⟩ := exists_left_of_forall₂ (mapM_eq_ok_iff.1 read) member
    ⟨value, read⟩
  obtain ⟨list, document, objects⟩ := importJson_written all {}
  exact ⟨read, list, document, objects orchardObject rfl (by decide), by decide +kernel⟩

end StoryWorld

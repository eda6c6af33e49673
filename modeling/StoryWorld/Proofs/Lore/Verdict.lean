import StoryWorld.Proofs.Lore.CarriedFields
import StoryWorld.Proofs.Lore.Interleaving
import StoryWorld.Proofs.Lore.ShownValues

/-!
# What a comparison tells

A comparison holds the readable entries of a document beside those that are exported from its
import, category by category and place by place. It leaves no entry of a known category out, and
what it tells is exact (`compareRoundTrip_exact`): it finds nothing just if the triggers of all
pairs are the same as sets, and so are the names of the sublocations of locations, and the spawn
tables of the others are the same as finite maps. Otherwise it finds one mismatch for each entry and
field that is not the same, in the order of the pairs, triggers first. It makes no difference
whether the values themselves are compared or the texts by which they are shown.

The comparison makes an import of its own, of the readable entries by themselves. The nodes of that
world may stand elsewhere on the canvas, which an export does not show (`entries_of_alike`).
-/

set_option autoImplicit false

namespace StoryWorld

/-! ## Compared fields -/

namespace DerivedField

/-- What is compared of an entry in a field. -/
def value (entry : Entry) : DerivedField → DerivedValue
  | .triggers => .words entry.triggers
  | .canSpawnAt => .chances entry.spawnTable
  | .subLocations => .words entry.sublocationNames

/-- Whether a field says the same in two entries: triggers and names of sublocations are sets, and
spawn tables are finite maps, which are empty where there is none. -/
def Agrees (entry other : Entry) : DerivedField → Prop
  | .triggers => ∀ word, word ∈ entry.triggers ↔ word ∈ other.triggers
  | .canSpawnAt => entry.spawnTable.Same other.spawnTable
  | .subLocations => ∀ name, name ∈ entry.sublocationNames ↔ name ∈ other.sublocationNames

variable {entry other : Entry} {field : DerivedField}

theorem same_value_iff :
    (field.value entry).same (field.value other) = true ↔ field.Agrees entry other := by
  cases field with
  | triggers => exact sameWords_iff
  | canSpawnAt => exact sameChances_iff
  | subLocations => exact sameWords_iff

/-- A field says the same just if it is shown by the same text. -/
theorem text_value_eq_iff :
    (field.value entry).text = (field.value other).text ↔ field.Agrees entry other :=
  (DerivedValue.same_iff_text_eq _ _).symm.trans same_value_iff

instance : Decidable (field.Agrees entry other) := decidable_of_iff _ same_value_iff

end DerivedField

namespace Entry

variable (entry other : Entry)

/-- The fields in which an entry is compared, in order. -/
def comparedFields : List DerivedField :=
  if entry.category = .location then [.triggers, .subLocations] else [.triggers, .canSpawnAt]

/-- The mismatch of two entries in a field. -/
def mismatchIn (field : DerivedField) : Mismatch :=
  ⟨entry.category, entry.name, field, field.value entry, field.value other⟩

/-- Two entries of one category say the same in all fields in which they are compared. -/
structure AgreesWith : Prop where
  triggers : ∀ word, word ∈ entry.triggers ↔ word ∈ other.triggers
  subLocations : entry.category = .location →
    ∀ name, name ∈ entry.sublocationNames ↔ name ∈ other.sublocationNames
  canSpawnAt : entry.category ≠ .location → entry.spawnTable.Same other.spawnTable

variable {entry other}

theorem agreesWith_iff :
    entry.AgreesWith other ↔ ∀ field ∈ entry.comparedFields, field.Agrees entry other := by
  unfold comparedFields
  split
  case isTrue location =>
    simp only [List.mem_cons, List.not_mem_nil, or_false, forall_eq_or_imp, forall_eq]
    exact ⟨fun agrees => ⟨agrees.triggers, agrees.subLocations location⟩,
      fun agrees => ⟨agrees.1, fun _ => agrees.2, fun other => absurd location other⟩⟩
  case isFalse cast =>
    simp only [List.mem_cons, List.not_mem_nil, or_false, forall_eq_or_imp, forall_eq]
    exact ⟨fun agrees => ⟨agrees.triggers, agrees.canSpawnAt cast⟩,
      fun agrees => ⟨agrees.1, fun location => absurd location cast, fun _ => agrees.2⟩⟩

theorem derived_eq (one : Entry) :
    one.derived entry.category =
      entry.comparedFields.map fun field => (field, field.value one) := by
  unfold derived comparedFields
  split <;> rfl

/-- The mismatches of a pair are those in the fields that do not say the same. -/
theorem mismatches_eq : entry.mismatches other =
    entry.comparedFields.filterMap fun field =>
      if field.Agrees entry other then none else some (entry.mismatchIn other field) := by
  rw [mismatches, derived_eq, derived_eq, List.zip_map', List.filterMap_map]
  congr 1
  funext field
  exact if_congr DerivedField.same_value_iff rfl rfl

theorem mismatches_eq_nil_iff : entry.mismatches other = [] ↔ entry.AgreesWith other := by
  rw [mismatches_eq, List.filterMap_eq_nil_iff, agreesWith_iff]
  refine forall₂_congr fun field _ => ?_
  by_cases agrees : field.Agrees entry other <;> simp [agrees]

end Entry

/-- A comparison tells exactly how the entries that are exported differ from the given ones. -/
structure Comparison.Exact (comparison : Comparison) (given exported : List Entry) : Prop where
  /-- Each given entry of a known category stands in one pair, in order. -/
  given_paired : (pairedEntries given exported).map Prod.fst = inGroups given
  /-- So does each exported one. -/
  exported_paired : (pairedEntries given exported).map Prod.snd = exported
  consistent_iff : comparison.isConsistent = true ↔
    ∀ pair ∈ pairedEntries given exported, pair.1.AgreesWith pair.2
  mismatches_eq : comparison.mismatches =
    (pairedEntries given exported).flatMap fun pair =>
      pair.1.comparedFields.filterMap fun field =>
        if field.Agrees pair.1 pair.2 then none else some (pair.1.mismatchIn pair.2 field)
  /-- The texts that are shown tell the values apart. -/
  shown_iff : ∀ pair ∈ pairedEntries given exported, ∀ field ∈ pair.1.comparedFields,
    (field.value pair.1).text = (field.value pair.2).text ↔ field.Agrees pair.1 pair.2

/-- Where entries are paired with their counterparts, the mismatches between them are exact. -/
theorem CarriedThrough.exact {given exported : List Entry}
    (carried : CarriedThrough given exported) (report : Report) :
    Comparison.Exact ⟨mismatchesBetween given exported, report⟩ given exported where
  given_paired := carried.given_paired
  exported_paired := carried.exported_paired
  consistent_iff := by
    rw [Comparison.isConsistent, List.isEmpty_iff, mismatchesBetween_eq, List.flatMap_eq_nil_iff]
    exact forall₂_congr fun _ _ => Entry.mismatches_eq_nil_iff
  mismatches_eq := by
    rw [mismatchesBetween_eq]
    simp only [Entry.mismatches_eq]
  shown_iff := fun _ _ _ _ => DerivedField.text_value_eq_iff

/-! ## Worlds alike -/

namespace Snapshot

section Alike

variable {world other : Snapshot} (nodes : List.Forall₂ Node.Alike world.nodes other.nodes)

include nodes

theorem forall₂_nodesOf (type : NodeType) :
    List.Forall₂ Node.Alike (world.nodesOf type) (other.nodesOf type) := by
  refine List.rel_filter ?_ nodes
  intro node copy alike
  simp only [alike.type]

theorem keyword?_of_alike : other.keyword? = world.keyword? := by
  funext id
  have found : Option.Rel Node.Alike (world.lastNode? id) (other.lastNode? id) := by
    refine rel_find? (List.rel_reverse nodes) fun node copy alike => ?_
    rw [alike.id]
  refine bind_eq_of_optionRel found fun node copy alike => ?_
  rw [Node.firstKeyword, alike.keywords]
  rfl

theorem sublocationTable_of_alike : other.sublocationTable = world.sublocationTable := by
  funext id
  have below : List.Forall₂ Node.Alike (world.sublocationsOf id) (other.sublocationsOf id) := by
    refine List.rel_filter ?_ nodes
    intro node copy alike
    simp only [alike.parent]
  unfold sublocationTable
  rw [map_eq_of_forall₂ below fun node _ copy alike => ?_]
  rw [alike]

variable (edges : other.edges = world.edges)

include edges

/-- **Where nodes stand is not exported.** Worlds whose nodes differ only in where they stand on the
canvas have the same lorebook. -/
theorem entries_of_alike : other.entries = world.entries := by
  have keywords := keyword?_of_alike nodes
  have rooms := sublocationTable_of_alike nodes
  have same : other.edgesOf = world.edgesOf := by
    funext type
    rw [edgesOf, edges]
    rfl
  have spawns : other.spawnTable = world.spawnTable := by
    funext id
    unfold spawnTable spawns edgeSpawns
    rw [keywords, same]
  have known : other.acquaintances = world.acquaintances := by
    funext id
    unfold acquaintances edgeAcquaintances
    rw [keywords, same]
  have borders : other.neighbours = world.neighbours := by
    funext id
    unfold neighbours
    rw [same]
  have locations : (other.nodesOf .location).map other.locationEntry =
      (world.nodesOf .location).map world.locationEntry := by
    refine map_eq_of_forall₂ (forall₂_nodesOf nodes .location) fun node _ copy alike => ?_
    rw [alike, locationEntry, locationEntry, borders, rooms, keywords]
    rfl
  have characters : (other.nodesOf .character).map other.characterEntry =
      (world.nodesOf .character).map world.characterEntry := by
    refine map_eq_of_forall₂ (forall₂_nodesOf nodes .character) fun node _ copy alike => ?_
    rw [alike, characterEntry, characterEntry, spawns, known]
    rfl
  have events : (other.nodesOf .event).map other.eventEntry =
      (world.nodesOf .event).map world.eventEntry := by
    refine map_eq_of_forall₂ (forall₂_nodesOf nodes .event) fun node _ copy alike => ?_
    rw [alike, eventEntry, eventEntry, eventSpawnTable, eventSpawnTable, spawns]
    rfl
  rw [entries, locations, characters, events]
  rfl

end Alike

end Snapshot

/-- **The verdict of a comparison is exact.** A comparison of a document that can be imported tells
exactly how the entries of the imported world differ from the readable ones of the document. -/
theorem compareRoundTrip_exact (config : Config) (document : Json) {outcome : Outcome}
    (accepted : importJson config document = .ok outcome) :
    ∃ items comparison, lorebookItems document = .ok items ∧
      compareRoundTrip config document = .ok comparison ∧
      comparison.Exact (readableEntries items) outcome.world.entries := by
  obtain ⟨parsed, read, whole⟩ := bind_eq_ok_iff.1 accepted
  obtain ⟨items, listed, -⟩ := bind_eq_ok_iff.1 read
  cases read.symm.trans (readEntries_of_items listed)
  have alike := alike_entriesDraft config items.length (items.map Entry.read)
  rcases alike.finish with ⟨why, failed, -⟩ | ⟨made, madeAlone⟩
  · cases whole.symm.trans failed
  cases whole.symm.trans made
  have exported : (entriesDraft config (items.map Entry.read)).outcome.world.entries =
      (wholeDraft config items.length (items.map Entry.read)).outcome.world.entries :=
    Snapshot.entries_of_alike alike.nodes alike.edges
  have compared : compareRoundTrip config document =
      .ok ⟨mismatchesBetween (readableEntries items)
          (entriesDraft config (items.map Entry.read)).outcome.world.entries,
        ⟨faultsFrom 0 (items.map Entry.read) ++
          (entriesDraft config (items.map Entry.read)).findings⟩⟩ := by
    have alone : importEntries config (readableEntries items) =
        .ok (entriesDraft config (items.map Entry.read)).outcome := by
      rw [← map_snd_entriesFrom_read]
      exact madeAlone
    refine bind_eq_ok_iff.2 ⟨_, readEntries_of_items listed, ?_⟩
    dsimp only
    rw [map_snd_entriesFrom_read]
    exact bind_eq_ok_iff.2 ⟨_, alone, rfl⟩
  have carried := (assembled_importDraft config (readableEntries items)).carriedThrough
  rw [map_snd_zip_range] at carried
  refine ⟨items, _, listed, compared, ?_⟩
  rw [← exported, entriesDraft, map_snd_entriesFrom_read]
  exact carried.exact _

/-- An item that is no entry; Ada, who is found at a place and at a bracket; an entry about nothing
known; a fork; and a bridge that has a separator for a keyword and rooms named by a brace and by a
backslash. The fork leads to the bridge, which does not say so. -/
def bracketedDocument : Json :=
  let entry (category name keyword : String) (more : List (String × Json)) : Json :=
    .object ([("category", .string category), ("name", .string name),
      ("keywords", .ofStrings [keyword])] ++ more)
  .array
    [.boolean true,
      entry "character" "Ada" "ada" [("canSpawnAt", .object [("fork", .ofFloat 0.5),
        (")", .ofFloat 0.25)])],
      entry "weather" "Rain" "rain" [],
      entry "location" "Fork" "fork" [("triggers", .ofStrings ["\", \"", "\", \""])],
      entry "location" "Bridge" "\", \"" [("subLocations",
        .object [(Json.closeBrace, .object []), ("\\", .object [])])]]

theorem bracketedDocument_compared :
    ∃ outcome, importJson {} bracketedDocument = .ok outcome ∧
      (∃ items comparison, lorebookItems bracketedDocument = .ok items ∧
        compareRoundTrip {} bracketedDocument = .ok comparison ∧
        comparison.Exact (readableEntries items) outcome.world.entries) ∧
      ((compareRoundTrip {} bracketedDocument).map fun comparison =>
          comparison.mismatches.map fun mismatch => (mismatch.name, mismatch.field)) =
        .ok [("Bridge", .triggers), ("Ada", .canSpawnAt)] := by
  have accepted : ∃ outcome, importJson {} bracketedDocument = .ok outcome := by
    have made : (importJson {} bracketedDocument).isOk = true := by decide +kernel
    cases imported : importJson {} bracketedDocument with
    | ok outcome => exact ⟨outcome, rfl⟩
    | error why => rw [imported] at made; cases made
  obtain ⟨outcome, imported⟩ := accepted
  exact ⟨outcome, imported, compareRoundTrip_exact {} bracketedDocument imported,
    by decide +kernel⟩

end StoryWorld

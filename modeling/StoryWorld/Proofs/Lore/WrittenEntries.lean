import StoryWorld.Lore.Comparison
import StoryWorld.Lore.Writing
import StoryWorld.Proofs.Graph.WrittenWorlds
import StoryWorld.Proofs.Lore.EntryFields
import StoryWorld.Proofs.Lore.Exported

/-!
# Reading back written entries

An entry is read back from its written form (`Entry.Writable.read_toJson`) when its chances are
finite, none of its conditions stands under the key of the required tags, and its category is the
one its word names. A list of such entries is then read without a finding
(`readEntries_listToJson`). The entries of a world that has been read are of this form
(`Snapshot.Legible.writable`).
-/

set_option autoImplicit false

namespace StoryWorld

open Json

/-- Entries that lose nothing when they are written. -/
structure Entry.Writable (entry : Entry) : Prop where
  chances : ∀ table ∈ entry.canSpawnAt, ∀ chance ∈ table.entries, chance.2.isFinite = true
  conditions : Filters.requiresAnyKey ∉ entry.filters.other.keys
  category : Category.ofName entry.category.name = entry.category

/-! ## Parts of entries -/

theorem SublocationEntry.read_toJson (sublocation : SublocationEntry) :
    SublocationEntry.read sublocation.toJson = .ok sublocation := by
  have distinct : ([("images", sublocation.images.toJson)].map Prod.fst).Nodup := by simp
  have images : (Fields.withDefault "images" .empty Images.read).Reads _ sublocation.images :=
    Fields.reads_field distinct rfl (Images.read_toJson sublocation.images)
  exact (images.map SublocationEntry.mk).readMembers_eq

theorem Acquaintance.read_toJson (acquaintance : Acquaintance) :
    Acquaintance.read acquaintance.toJson = .ok acquaintance := by
  have distinct : ([("relationship", Json.string acquaintance.relationship),
      ("thoughts", .string acquaintance.thoughts)].map Prod.fst).Nodup := by simp
  have relationship : (Fields.withDefault "relationship" "" Reader.string).Reads _
      acquaintance.relationship := Fields.reads_field distinct rfl rfl
  have thoughts : (Fields.withDefault "thoughts" "" Reader.string).Reads _
      acquaintance.thoughts := Fields.reads_field distinct rfl rfl
  exact ((relationship.map Acquaintance.mk).seq thoughts).readMembers_eq

/-! ## Entries -/

section Fields

variable {α : Type} {members : List (String × Json)}

theorem Entry.reads_defaulted (distinct : (members.map Prod.fst).Nodup) {key : String}
    {default value : α} {reader : Reader α} (found : Json) (here : (key, found) ∈ members)
    (written : found ≠ .null) (read : reader found = .ok value) :
    (Entry.defaulted key default reader).Reads members value := by
  have there := lookup_eq_of_mem distinct here
  rw [Entry.reads_defaulted_iff distinct, stated_eq_lookup (by simpa [there] using written), there]
  exact read

theorem Entry.reads_text (distinct : (members.map Prod.fst).Nodup) {key text : String}
    (here : (key, .string text) ∈ members) :
    (Entry.defaulted key "" Reader.string).Reads members text :=
  Entry.reads_defaulted distinct _ here Json.noConfusion rfl

theorem Entry.reads_texts (distinct : (members.map Prod.fst).Nodup) {key : String}
    {texts : List String} (here : (key, .ofStrings texts) ∈ members) :
    (Entry.defaulted key [] readStrings).Reads members texts :=
  Entry.reads_defaulted distinct _ here Json.noConfusion (readStrings_ofStrings texts)

theorem Entry.reads_maybe (distinct : (members.map Prod.fst).Nodup) {key : String}
    {reader : Reader α} {write : α → Json} {value : Option α}
    (here : members.lookup key = value.map write) (written : ∀ value, write value ≠ .null)
    (read : ∀ found ∈ value, reader (write found) = .ok found) :
    (Entry.maybe key reader).Reads members value := by
  have noNull : ∀ found ∈ members.lookup key, found ≠ .null := by
    rw [here]
    intro found given
    obtain ⟨value, -, rfl⟩ := Option.map_eq_some_iff.1 given
    exact written value
  rw [Entry.reads_maybe_iff distinct, stated_eq_lookup noNull, here]
  cases value with
  | none => rfl
  | some found => exact map_eq_ok_iff.2 ⟨found, read found rfl, rfl⟩

theorem Entry.lookup_member? {key other : String} {write : α → Json} {value : Option α} :
    (Entry.member? key write value).lookup other =
      if other = key then value.map write else none := by
  cases value with
  | none => simp [Entry.member?]
  | some found =>
    by_cases same : other = key
    · simp [Entry.member?, same]
    · have differ : (other == key) = false := beq_eq_false_iff_ne.2 same
      simp [Entry.member?, same, List.lookup_cons, differ]

theorem Entry.keys_member? {key : String} {write : α → Json} {value : Option α} :
    ((Entry.member? key write value).map Prod.fst).Sublist [key] := by
  cases value with
  | none => exact List.nil_sublist _
  | some found => exact List.Sublist.refl _

end Fields

/-- The members of a written entry. -/
def Entry.members (entry : Entry) : List (String × Json) :=
  [("keywords", .ofStrings entry.keywords), ("category", .string entry.category.name),
    ("name", .string entry.name), ("content", .string entry.content),
    ("contentShort", .string entry.contentShort), ("triggers", .ofStrings entry.triggers)] ++
  Entry.member? "canSpawnAt" (.ofTable .ofFloat) entry.canSpawnAt ++
  Entry.member? "timeFilter" .ofStrings entry.timeFilter ++
  [("images", entry.images.toJson), ("filters", entry.filters.toJson)] ++
  Entry.member? "disabledFor" .ofStrings entry.disabledFor ++
  [("enabled", .boolean entry.enabled)] ++
  Entry.member? "subLocations" (.ofTable SublocationEntry.toJson) entry.subLocations ++
  Entry.member? "knows" (.ofTable Acquaintance.toJson) entry.knows

theorem Entry.nodup_members (entry : Entry) : (entry.members.map Prod.fst).Nodup := by
  have known : (entry.members.map Prod.fst).Sublist Entry.keys := by
    simp only [Entry.members, List.map_append]
    exact ((((((((List.Sublist.refl _).append Entry.keys_member?).append
      Entry.keys_member?).append (List.Sublist.refl _)).append Entry.keys_member?).append
      (List.Sublist.refl _)).append Entry.keys_member?).append Entry.keys_member?)
  exact known.nodup (by decide)

/-- A field that may be absent is found just if it is there. -/
theorem Entry.lookup_members (entry : Entry) :
    entry.members.lookup "canSpawnAt" = entry.canSpawnAt.map (.ofTable .ofFloat) ∧
      entry.members.lookup "timeFilter" = entry.timeFilter.map .ofStrings ∧
      entry.members.lookup "disabledFor" = entry.disabledFor.map .ofStrings ∧
      entry.members.lookup "subLocations" =
        entry.subLocations.map (.ofTable SublocationEntry.toJson) ∧
      entry.members.lookup "knows" = entry.knows.map (.ofTable Acquaintance.toJson) := by
  refine ⟨?_, ?_, ?_, ?_, ?_⟩ <;>
    simp [Entry.members, List.lookup_append, List.lookup_cons, Entry.lookup_member?]

/-- **Entries are read back.** -/
theorem Entry.Writable.read_toJson {entry : Entry} (writable : entry.Writable) :
    Entry.read entry.toJson = .ok entry := by
  have distinct := entry.nodup_members
  obtain ⟨chancesThere, timesThere, disabledThere, sublocationsThere, knowsThere⟩ :=
    entry.lookup_members
  have keywords : (Entry.defaulted "keywords" [] readStrings).Reads entry.members
      entry.keywords :=
    Entry.reads_texts distinct (by simp [Entry.members])
  have category : (Entry.defaulted "category" (.other "") Category.read).Reads entry.members
      entry.category :=
    Entry.reads_defaulted distinct (.string entry.category.name) (by simp [Entry.members])
      Json.noConfusion (congrArg Except.ok writable.category)
  have name : (Entry.defaulted "name" "" Reader.string).Reads entry.members entry.name :=
    Entry.reads_text distinct (by simp [Entry.members])
  have content : (Entry.defaulted "content" "" Reader.string).Reads entry.members entry.content :=
    Entry.reads_text distinct (by simp [Entry.members])
  have contentShort : (Entry.defaulted "contentShort" "" Reader.string).Reads entry.members
      entry.contentShort :=
    Entry.reads_text distinct (by simp [Entry.members])
  have triggers : (Entry.defaulted "triggers" [] readStrings).Reads entry.members
      entry.triggers :=
    Entry.reads_texts distinct (by simp [Entry.members])
  have chances : (Entry.maybe "canSpawnAt" (Reader.table Reader.double)).Reads entry.members
      entry.canSpawnAt :=
    Entry.reads_maybe distinct chancesThere (fun _ => Json.noConfusion)
      fun table given => Reader.table_ofTable fun chance member =>
        Reader.double_ofFloat (writable.chances table given chance member)
  have times : (Entry.maybe "timeFilter" readStrings).Reads entry.members entry.timeFilter :=
    Entry.reads_maybe distinct timesThere (fun _ => Json.noConfusion)
      fun texts _ => readStrings_ofStrings texts
  have images : (Entry.defaulted "images" .empty Images.read).Reads entry.members entry.images :=
    Entry.reads_defaulted distinct entry.images.toJson (by simp [Entry.members]) Json.noConfusion
      (Images.read_toJson _)
  have filters : (Entry.defaulted "filters" .none Filters.read).Reads entry.members
      entry.filters :=
    Entry.reads_defaulted distinct entry.filters.toJson (by simp [Entry.members])
      Json.noConfusion (Filters.read_toJson writable.conditions)
  have disabled : (Entry.maybe "disabledFor" readStrings).Reads entry.members
      entry.disabledFor :=
    Entry.reads_maybe distinct disabledThere (fun _ => Json.noConfusion)
      fun texts _ => readStrings_ofStrings texts
  have enabled : (Entry.defaulted "enabled" true Reader.boolean).Reads entry.members
      entry.enabled :=
    Entry.reads_defaulted distinct (.boolean entry.enabled) (by simp [Entry.members])
      Json.noConfusion rfl
  have sublocations : (Entry.maybe "subLocations" (Reader.table SublocationEntry.read)).Reads
      entry.members entry.subLocations :=
    Entry.reads_maybe distinct sublocationsThere (fun _ => Json.noConfusion)
      fun table _ => Reader.table_ofTable fun sublocation _ => sublocation.2.read_toJson
  have knows : (Entry.maybe "knows" (Reader.table Acquaintance.read)).Reads entry.members
      entry.knows :=
    Entry.reads_maybe distinct knowsThere (fun _ => Json.noConfusion)
      fun table _ => Reader.table_ofTable fun known _ => known.2.read_toJson
  have all := ((((((((((((((keywords.map Entry.mk).seq category).seq name).seq content).seq
    contentShort).seq triggers).seq chances).seq times).seq images).seq filters).seq
    disabled).seq enabled).seq sublocations).seq knows)
  exact all.readMembers_eq

/-! ## Lorebooks -/

/-- Entries that have all been read keep their places, and nothing is found in them. -/
theorem readEntries_listToJson {entries : List Entry}
    (writable : ∀ entry ∈ entries, entry.Writable) :
    readEntries (Entry.listToJson entries) =
      .ok ⟨(List.range entries.length).zip entries, entries.length, []⟩ := by
  have read : (entries.map Entry.toJson).map Entry.read = entries.map Except.ok := by
    rw [List.map_map]
    exact List.map_congr_left fun entry member => (writable entry member).read_toJson
  refine bind_eq_ok_iff.2 ⟨entries.map Entry.toJson, rfl, ?_⟩
  rw [pure_eq_ok_iff]
  simp only [read, List.length_map, List.zip_map_right]
  congr 1
  · rw [List.filterMap_map]
    exact List.filterMap_some
  · rw [List.filterMap_map]
    exact List.filterMap_eq_nil_iff.2 fun _ _ => rfl

/-! ## Entries of a world -/

namespace Snapshot

variable {world : Snapshot} (legible : world.Legible)

include legible

theorem Legible.isFinite_of_mem_edgeSpawns {edge : Edge} (member : edge ∈ world.edges)
    {spawn : String × Float} (said : spawn ∈ world.edgeSpawns edge) :
    spawn.2.isFinite = true := by
  have finite := legible.edges edge member
  rcases mem_edgeSpawns.1 said with ⟨overrides, kind, -⟩ | ⟨inside, -⟩
  · rw [kind] at finite
    exact finite.1
  · cases kind : edge.kind with
    | spawn probability overrides =>
      rw [kind] at finite inside
      exact finite.2 spawn inside
    | adjacent => rw [kind] at inside; cases inside
    | knows relationship sourceThinks targetThinks => rw [kind] at inside; cases inside

theorem Legible.isFinite_of_mem_spawnTable {id : ElementId} {spawn : String × Float}
    (member : spawn ∈ (world.spawnTable id).entries) : spawn.2.isFinite = true := by
  have said := Table.mem_of_get?_ofList (Table.get?_eq_some_iff.2 member)
  obtain ⟨edge, inside, -, said⟩ := mem_spawns.1 said
  exact legible.isFinite_of_mem_edgeSpawns (mem_edgesOf.1 inside).1 said

theorem Legible.isFinite_of_mem_eventSpawnTable {node : Node} (member : node ∈ world.nodes)
    {spawn : String × Float} (bound : spawn ∈ (world.eventSpawnTable node).entries) :
    spawn.2.isFinite = true := by
  have finite := legible.nodes node member
  unfold eventSpawnTable at bound
  split at bound
  · rename_i kind
    rw [kind] at finite
    have said := Table.mem_of_get?_ofList (Table.get?_eq_some_iff.2 bound)
    rw [congrArg Prod.snd (List.mem_singleton.1 said)]
    exact finite
  · exact legible.isFinite_of_mem_spawnTable bound

/-- Nothing in the entries of a legible world is lost when they are written. -/
theorem Legible.writable : ∀ entry ∈ world.entries, entry.Writable := by
  intro entry member
  rw [entries, List.mem_append, List.mem_append] at member
  rcases member with (member | member) | member
  · obtain ⟨node, inside, rfl⟩ := List.mem_map.1 member
    refine ⟨?_, legible.conditions node (mem_nodesOf.1 inside).1, rfl⟩
    intro table given
    cases given
  · obtain ⟨node, inside, rfl⟩ := List.mem_map.1 member
    refine ⟨?_, legible.conditions node (mem_nodesOf.1 inside).1, rfl⟩
    intro table given
    cases given
    exact fun _ => legible.isFinite_of_mem_spawnTable
  · obtain ⟨node, inside, rfl⟩ := List.mem_map.1 member
    refine ⟨?_, legible.conditions node (mem_nodesOf.1 inside).1, rfl⟩
    intro table given
    cases given
    exact fun _ => legible.isFinite_of_mem_eventSpawnTable (mem_nodesOf.1 inside).1

end Snapshot

end StoryWorld

import StoryWorld.Proofs.Lore.Counterparts
import StoryWorld.Proofs.Lore.Mentioners

/-!
# What an entry keeps on the way through a world

An import makes nodes of entries: first the locations, each with its sublocations, then the
characters and events as they come. An export groups the nodes by kind again. Whatever the entries
say of each other, and whichever of their words collide, every entry about a location, character or
event has one counterpart in the exported lorebook, at the same place among the entries of its
category, and the counterpart carries all fields that do not refer to others (`Entry.Carried`).

So a comparison, which pairs entries by their places, pairs each entry with its own counterpart and
leaves none out (`importEntries_carries`).
-/

set_option autoImplicit false

namespace StoryWorld

/-! ## Counterparts -/

/-- The sublocations of an entry with cleaned images; nothing if there are none. -/
def Entry.cleanedSublocations (entry : Entry) : Option (Table String SublocationEntry) :=
  Snapshot.nonempty?
    ((entry.subLocations.getD .empty).mapValues fun _ listed => ⟨listed.images.cleaned⟩)

/-- What an exported entry carries over from the entry that was imported. -/
structure Entry.Carried (given exported : Entry) : Prop where
  category : exported.category = given.category
  keywords : exported.keywords = given.keywords
  /-- Only an event may lack a name, and then it is given one. -/
  name : exported.name =
    if given.category = .event ∧ given.name = "" then unnamedEvent else given.name
  content : exported.content = given.content
  filters : exported.filters = given.filters
  images : exported.images = given.images.cleaned
  /-- Events have no short content. -/
  contentShort : given.category ≠ .event → exported.contentShort = given.contentShort
  subLocations : given.category = .location →
    exported.subLocations = given.cleanedSublocations
  disabledFor : given.category = .character →
    exported.disabledFor = some (given.disabledFor.getD [])
  timeFilter : given.category = .event → exported.timeFilter = some (given.timeFilter.getD [])
  /-- The key for everywhere is kept with its value, and then it is the only one. -/
  anywhere : given.category = .event → ∀ chance,
    given.spawnTable.get? anyLocation = some chance →
      exported.canSpawnAt = some (.ofList [(anyLocation, chance)])

/-- The entries of known categories: locations, then characters, then events. -/
def inGroups (entries : List Entry) : List Entry :=
  ofCategory .location entries ++ ofCategory .character entries ++ ofCategory .event entries

/-- The entries that a comparison holds side by side. -/
def pairedEntries (given exported : List Entry) : List (Entry × Entry) :=
  [Category.location, .character, .event].flatMap fun category =>
    (ofCategory category given).zip (ofCategory category exported)

/-- A comparison goes through the pairs one after another. -/
theorem mismatchesBetween_eq (given exported : List Entry) :
    mismatchesBetween given exported =
      (pairedEntries given exported).flatMap fun pair => pair.1.mismatches pair.2 := by
  rw [pairedEntries, List.flatMap_assoc]
  rfl

/-- Where one side of the pairs of each category is its group, that side of all pairs is in
groups. -/
theorem map_pairedEntries {given exported entries : List Entry} {side : Entry × Entry → Entry}
    (each : ∀ category ∈ [Category.location, .character, .event],
      ((ofCategory category given).zip (ofCategory category exported)).map side =
        ofCategory category entries) :
    (pairedEntries given exported).map side = inGroups entries := by
  rw [pairedEntries, List.map_flatMap, List.flatMap_congr each]
  simp only [inGroups, List.flatMap_cons, List.flatMap_nil, List.append_nil, List.append_assoc]

section Paired

variable {given exported : List Entry}
  (long : ∀ category ∈ [Category.location, .character, .event],
    (ofCategory category given).length = (ofCategory category exported).length)

include long

/-- Where the groups are equally long, each entry of a known category is in one pair. -/
theorem map_fst_pairedEntries : (pairedEntries given exported).map Prod.fst = inGroups given :=
  map_pairedEntries fun category known => List.map_fst_zip (Nat.le_of_eq (long category known))

theorem map_snd_pairedEntries :
    (pairedEntries given exported).map Prod.snd = inGroups exported :=
  map_pairedEntries fun category known =>
    List.map_snd_zip (Nat.le_of_eq (long category known).symm)

end Paired

/-- An exported lorebook is in groups. -/
theorem Snapshot.inGroups_entries (world : Snapshot) : inGroups world.entries = world.entries := by
  rw [inGroups, ofCategory_location, ofCategory_character, ofCategory_event]
  rfl

/-! ## Sublocations -/

section Families

variable {settings : GraphSettings} {places : List Placement}

/-- Among the nodes of several locations, those below one of them are its own sublocations. -/
theorem filter_parent_flatMap_nodes (distinct : (places.map Placement.id).Nodup)
    {placed : Placement} (member : placed ∈ places) :
    (places.flatMap (Placement.nodes settings)).filter
        (fun node => decide (node.parent = some placed.id)) = placed.sublocations settings := by
  have family (one : Placement) :
      (one.nodes settings).filter (fun node => decide (node.parent = some placed.id)) =
        if one.id = placed.id then one.sublocations settings else [] := by
    have head : decide ((one.node settings).parent = some placed.id) = false := by
      rw [Placement.parent_node]
      rfl
    rw [Placement.nodes, List.filter_cons_of_neg (by simp [head])]
    split
    · rename_i same
      refine List.filter_eq_self.2 fun room inside => decide_eq_true ?_
      rw [Placement.parent_of_mem_sublocations inside, same]
    · rename_i other
      refine List.filter_eq_nil_iff.2 fun room inside => ?_
      rw [Placement.parent_of_mem_sublocations inside]
      simpa using other
  induction places with
  | nil => cases member
  | cons one rest ih =>
    obtain ⟨fresh, distinct⟩ := List.nodup_cons.1 distinct
    rw [List.flatMap_cons, List.filter_append, family]
    rcases List.mem_cons.1 member with rfl | later
    · have others : (rest.flatMap (Placement.nodes settings)).filter
          (fun node => decide (node.parent = some placed.id)) = [] := by
        rw [List.filter_flatMap]
        refine List.flatMap_eq_nil_iff.2 fun one inside => ?_
        rw [family, if_neg]
        intro same
        exact fresh (same ▸ List.mem_map_of_mem inside)
      rw [if_pos rfl, others, List.append_nil]
    · have differ : one.id ≠ placed.id := by
        intro same
        exact fresh (same ▸ List.mem_map_of_mem later)
      rw [if_neg differ, List.nil_append, ih distinct later]

end Families

/-- The sublocations of an entry with cleaned images are those of its placement. -/
theorem Placement.table_sublocations (settings : GraphSettings) {placed : Placement}
    (isLocation : placed.entry.IsLocation) :
    Table.ofList ((placed.sublocations settings).map fun room =>
        (room.name, (⟨room.images.cleaned⟩ : SublocationEntry))) =
      (placed.entry.subLocations.getD .empty).mapValues fun _ listed =>
        ⟨listed.images.cleaned⟩ := by
  let clean (listed : String × SublocationEntry) : String × SublocationEntry :=
    (listed.1, ⟨listed.2.images.cleaned⟩)
  have rooms : ((placed.sublocations settings).map fun room =>
      (room.name, (⟨room.images.cleaned⟩ : SublocationEntry))) =
        (placed.entry.subLocations.getD .empty).entries.map clean := by
    rw [sublocations, if_pos isLocation, List.map_map, ← Draft.map_snd_sublocationsOf, List.map_map]
    rfl
  have entries : (placed.entry.subLocations.getD .empty).entries.map clean =
      ((placed.entry.subLocations.getD .empty).mapValues fun _ listed =>
        (⟨listed.images.cleaned⟩ : SublocationEntry)).entries := rfl
  rw [rooms, entries, Table.ofList_entries]

namespace Draft

variable {config : Config} {total : Nat} {items : List (Nat × Entry)} {last : Draft}

section Whole

variable (whole : Assembled config total items last [])

include whole

/-- The sublocations of an imported location are those that its entry lists. -/
theorem Assembled.sublocationsOf_placed {placed : Placement}
    (member : placed ∈ locationPlacements config total items) :
    last.outcome.world.sublocationsOf placed.id = placed.sublocations config.graph := by
  have cast : ((castPlacements config total items).map (Placement.node config.graph)).filter
      (fun node => decide (node.parent = some placed.id)) = [] := by
    refine List.filter_eq_nil_iff.2 fun node inside => ?_
    obtain ⟨other, -, rfl⟩ := List.mem_map.1 inside
    rw [Placement.parent_node]
    simp
  have nodes : last.outcome.world.nodes = importedNodes config total items := whole.nodes
  rw [Snapshot.sublocationsOf, nodes, importedNodes, List.filter_append, cast, List.append_nil]
  exact filter_parent_flatMap_nodes (whole.nodup_mentioners .adjacent) member

/-! ## Entries of placements -/

theorem Assembled.carried_location {placed : Placement}
    (member : placed ∈ locationPlacements config total items) :
    placed.entry.Carried
      (last.outcome.world.locationEntry (placed.node config.graph)) := by
  have category : placed.entry.category = .location := isLocation_of_mem member
  have rooms : (last.outcome.world.locationEntry (placed.node config.graph)).subLocations =
      placed.entry.cleanedSublocations := by
    rw [Entry.cleanedSublocations, ← Placement.table_sublocations config.graph category,
      ← whole.sublocationsOf_placed member]
    rfl
  have kind : placed.entry.nodeKind config.graph = .location := by
    rw [Entry.nodeKind, category]
  have name : placed.entry.nodeName = placed.entry.name := by
    rw [Entry.nodeName, category]
  exact {
    category := category.symm
    keywords := rfl
    name := by
      rw [if_neg (by simp [category]), ← name]
      rfl
    content := rfl
    filters := rfl
    images := rfl
    contentShort := fun _ => by
      simp [Snapshot.locationEntry, Placement.node, nodeOf, kind]
    subLocations := fun _ => rooms
    disabledFor := fun character => by simp [category] at character
    timeFilter := fun event => by simp [category] at event
    anywhere := fun event => by simp [category] at event }

end Whole

theorem carried_character {placed : Placement} (category : placed.entry.category = .character)
    (world : Snapshot) :
    placed.entry.Carried (world.characterEntry (placed.node config.graph)) := by
  have kind : (placed.node config.graph).kind =
      .character (placed.entry.disabledFor.getD []) := by
    simp [Placement.node, nodeOf, Entry.nodeKind, category]
  have name : placed.entry.nodeName = placed.entry.name := by
    rw [Entry.nodeName, category]
  exact {
    category := category.symm
    keywords := rfl
    name := by
      rw [if_neg (by simp [category]), ← name]
      rfl
    content := rfl
    filters := rfl
    images := rfl
    contentShort := fun _ => by
      simp [Snapshot.characterEntry, Placement.node, nodeOf, Entry.nodeKind, category]
    subLocations := fun location => by simp [category] at location
    disabledFor := fun _ => by simp only [Snapshot.characterEntry, kind]
    timeFilter := fun event => by simp [category] at event
    anywhere := fun event => by simp [category] at event }

theorem carried_event {placed : Placement} (category : placed.entry.category = .event)
    (world : Snapshot) :
    placed.entry.Carried (world.eventEntry (placed.node config.graph)) := by
  have kind : (placed.node config.graph).kind =
      .event (placed.entry.timeFilter.getD []) (placed.entry.spawnTable.get? anyLocation).isSome
        ((placed.entry.spawnTable.get? anyLocation).getD
          config.graph.defaultGlobalSpawnChance) := by
    simp [Placement.node, nodeOf, Entry.nodeKind, category]
  have name : placed.entry.nodeName =
      if placed.entry.name = "" then unnamedEvent else placed.entry.name := by
    rw [Entry.nodeName, category]
  exact {
    category := category.symm
    keywords := rfl
    name := by
      simp only [category, true_and]
      exact name
    content := rfl
    filters := rfl
    images := rfl
    contentShort := fun other => absurd category other
    subLocations := fun location => by simp [category] at location
    disabledFor := fun character => by simp [category] at character
    timeFilter := fun _ => by simp only [Snapshot.eventEntry, kind]
    anywhere := fun _ chance found => by
      rw [found] at kind
      simp only [Snapshot.eventEntry, Snapshot.eventSpawnTable, kind, Option.isSome_some,
        Option.getD_some] }

/-! ## All entries -/

/-- **Every entry has its counterpart.** In each category the exported entries are as many as the
imported ones, and each carries the fields of the one at its place. -/
theorem Assembled.forall₂_carried (whole : Assembled config total items last [])
    (category : Category) (known : category ∈ [Category.location, .character, .event]) :
    List.Forall₂ Entry.Carried (ofCategory category (items.map Prod.snd))
      (ofCategory category last.outcome.world.entries) := by
  simp only [List.mem_cons, List.not_mem_nil, or_false] at known
  rcases known with rfl | rfl | rfl
  · rw [Snapshot.ofCategory_location, nodesOf_location whole.nodes, List.map_map]
    have given : ofCategory .location (items.map Prod.snd) =
        (locationPlacements config total items).map Placement.entry :=
      map_entry_locationPlacements.symm
    rw [given]
    exact forall₂_map_map fun placed member => whole.carried_location member
  · rw [Snapshot.ofCategory_character, nodesOf_character whole.nodes, List.map_map]
    have given := @map_entry_characterPlacements config total items
    rw [ofCategory, ← given]
    refine forall₂_map_map fun placed member => carried_character ?_ _
    exact of_decide_eq_true (List.mem_filter.1 member).2
  · rw [Snapshot.ofCategory_event, nodesOf_event whole.nodes, List.map_map]
    have given := @map_entry_eventPlacements config total items
    rw [ofCategory, ← given]
    refine forall₂_map_map fun placed member => carried_event ?_ _
    exact of_decide_eq_true (List.mem_filter.1 member).2

end Draft

/-- An exported lorebook carries the entries of a given one: it is in groups, each group has the
counterparts of the given entries in order, and in pairs of entries each given entry of a known
category and each exported one stands once. -/
structure CarriedThrough (given exported : List Entry) : Prop where
  grouped : inGroups exported = exported
  carried : ∀ category ∈ [Category.location, .character, .event],
    List.Forall₂ Entry.Carried (ofCategory category given) (ofCategory category exported)
  given_paired : (pairedEntries given exported).map Prod.fst = inGroups given
  exported_paired : (pairedEntries given exported).map Prod.snd = exported
  paired_carried : ∀ pair ∈ pairedEntries given exported, pair.1.Carried pair.2

theorem Draft.Assembled.carriedThrough {config : Config} {total : Nat}
    {items : List (Nat × Entry)} {last : Draft} (whole : Assembled config total items last []) :
    CarriedThrough (items.map Prod.snd) last.outcome.world.entries := by
  have long : ∀ category ∈ [Category.location, .character, .event],
      (ofCategory category (items.map Prod.snd)).length =
        (ofCategory category last.outcome.world.entries).length :=
    fun category known => (whole.forall₂_carried category known).length_eq
  have grouped := last.outcome.world.inGroups_entries
  refine ⟨grouped, whole.forall₂_carried, map_fst_pairedEntries long,
    (map_snd_pairedEntries long).trans grouped, ?_⟩
  intro pair paired
  obtain ⟨category, known, inside⟩ := List.mem_flatMap.1 paired
  exact List.forall₂_zip (whole.forall₂_carried category known) inside

/-- **Fields are carried through an import and an export.** Whatever entries are imported, if no
more nodes and edges come of them than there are ordinals, the entries of the imported world carry
them, entry by entry; and a comparison of any document with just these entries holds each of them
beside its own counterpart. -/
theorem importEntries_carries (config : Config) (entries : List Entry)
    (fewNodes : (importDraft config entries).nodes.length ≤ ElementId.maxOrdinal)
    (fewEdges : (importDraft config entries).edges.length ≤ ElementId.maxOrdinal) :
    ∃ outcome, importEntries config entries = .ok outcome ∧
      CarriedThrough entries outcome.world.entries ∧
      ∀ document parsed, readEntries document = .ok parsed →
        parsed.items.map Prod.snd = entries →
          ∃ comparison, compareRoundTrip config document = .ok comparison ∧
            comparison.mismatches = (pairedEntries entries outcome.world.entries).flatMap
              fun pair => pair.1.mismatches pair.2 := by
  have imported : importEntries config entries = .ok (importDraft config entries).outcome :=
    Draft.finish_of_le fewNodes fewEdges
  have carried := (assembled_importDraft config entries).carriedThrough
  rw [map_snd_zip_range] at carried
  refine ⟨_, imported, carried, ?_⟩
  rintro document parsed read rfl
  refine ⟨_, bind_eq_ok_iff.2 ⟨parsed, read, bind_eq_ok_iff.2 ⟨_, imported, rfl⟩⟩, ?_⟩
  exact mismatchesBetween_eq _ _

/-- An event for everywhere before any place, an entry about nothing known, two inns under one word,
the first of which has rooms with blank and untrimmed addresses, an event without a name, and Ada
after all of them. -/
def tangledEntries : List Entry :=
  [((Entry.blank .event "Eclipse").withSpawn "inn" 0.5).withSpawn anyLocation 0.125,
    .blank (.other "weather") "Rain",
    { Entry.blank .location "Inn" with
      keywords := ["Inn"]
      subLocations := some (.ofList
        [("Taproom", ⟨.ofList [("day", .one " tap.png "), ("night", .many ["", "\t"])]⟩),
          ("Cellar", ⟨.empty⟩)]) },
    { Entry.blank .event "" with timeFilter := some ["dusk"] }.withSpawn "CELLAR" 0.25,
    { Entry.blank .location "Tavern" with
      keywords := ["inn", "tavern"], subLocations := some .empty },
    { Entry.blank .character "Ada" with keywords := ["ada"] }.withSpawn "moon" 1]

theorem tangledEntries_carried :
    (importDraft {} tangledEntries).nodes.length ≤ ElementId.maxOrdinal ∧
      (importDraft {} tangledEntries).edges.length ≤ ElementId.maxOrdinal ∧
      ∃ outcome, importEntries {} tangledEntries = .ok outcome ∧
        CarriedThrough tangledEntries outcome.world.entries ∧
        ∀ document parsed, readEntries document = .ok parsed →
          parsed.items.map Prod.snd = tangledEntries →
            ∃ comparison, compareRoundTrip {} document = .ok comparison ∧
              comparison.mismatches = (pairedEntries tangledEntries outcome.world.entries).flatMap
                fun pair => pair.1.mismatches pair.2 := by
  have fewNodes : (importDraft {} tangledEntries).nodes.length ≤ ElementId.maxOrdinal := by
    decide +kernel
  have fewEdges : (importDraft {} tangledEntries).edges.length ≤ ElementId.maxOrdinal := by
    decide +kernel
  exact ⟨fewNodes, fewEdges, importEntries_carries {} tangledEntries fewNodes fewEdges⟩

end StoryWorld

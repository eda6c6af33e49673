import StoryWorld.Proofs.Lore.Findings
import StoryWorld.Proofs.Lore.ImportedNodes
import StoryWorld.Proofs.Related

/-!
# No reference is lost

An entry refers to others by the keys of its spawn table, by its triggers, and by whom it knows.
Whatever the entries of a lorebook are, each of these references is either reported or takes effect:
a key of a spawn table gives a spawn edge its probability or an override, a trigger joins two
locations, an acquaintance two characters, unless a location or character refers to itself.

What is reported can be told from the entries alone (`unresolvedReferences`): the references whose
word nothing declares. What the others do is said of the imported world: the place of a key
(`Snapshot.place?`) is the first location that has it as a keyword, or else the first sublocation
that has it as its name, and a spawn edge offers it with the value of the last key of the table that
leads to the same place. Several keys may share a place, by other keywords or in other letter case,
and then the last one counts.

`importEntries_honours` is the statement about all lists of entries.
-/

set_option autoImplicit false

namespace StoryWorld

/-! ## References that are reported -/

/-- Some entry of a category declares a word as a keyword, letter case aside. -/
def HasKeyword (entries : List Entry) (category : Category) (word : String) : Prop :=
  ∃ entry ∈ entries, entry.category = category ∧
    Text.lowercase word ∈ entry.keywords.map Text.lowercase

/-- Some entry about a location declares a word as the name of a sublocation, letter case aside. -/
def HasSublocation (entries : List Entry) (word : String) : Prop :=
  ∃ entry ∈ entries, entry.category = .location ∧
    Text.lowercase word ∈ entry.sublocationNames.map Text.lowercase

instance (entries : List Entry) (category : Category) (word : String) :
    Decidable (HasKeyword entries category word) :=
  inferInstanceAs (Decidable (∃ entry ∈ entries, _))

instance (entries : List Entry) (word : String) : Decidable (HasSublocation entries word) :=
  inferInstanceAs (Decidable (∃ entry ∈ entries, _))

/-- The keys by which an entry refers to places; a global event refers to none. -/
def Entry.placeKeys (entry : Entry) : List String :=
  if entry.isAnywhere then [] else entry.spawnTable.keys

/-- The keywords by which an entry refers to those it knows. -/
def Entry.knownKeys (entry : Entry) : List String := (entry.knows.getD .empty).keys

/-- The findings about those references of an entry that nothing declares. -/
def Entry.lostReferences (entry : Entry) (field : ReferenceField) (keys : List String)
    (declared : String → Bool) : List Finding :=
  (keys.filter fun key => !declared key).map (.unresolvedReference entry.name field)

/-- The findings about all references that nothing declares: first those of the spawn tables of
characters and events, then those of the triggers of locations, then those of the acquaintances of
characters, each in the order of the entries. -/
def unresolvedReferences (entries : List Entry) : List Finding :=
  ((entries.filter fun entry => decide entry.IsCast).flatMap fun entry =>
      entry.lostReferences .canSpawnAt entry.placeKeys fun key =>
        decide (HasKeyword entries .location key ∨ HasSublocation entries key)) ++
    ((entries.filter fun entry => decide (entry.category = .location)).flatMap fun entry =>
      entry.lostReferences .triggers entry.triggers fun key =>
        decide (HasKeyword entries .location key)) ++
    (entries.filter fun entry => decide (entry.category = .character)).flatMap fun entry =>
      entry.lostReferences .knows entry.knownKeys fun key =>
        decide (HasKeyword entries .character key)

/-! ## References that take effect -/

/-- What a key of a spawn table can stand for. -/
inductive Place where
  | location (id : ElementId)
  | sublocation (ref : SublocationRef)
  deriving DecidableEq

namespace Snapshot

/-- The place that a key stands for: the first location that has it as a keyword or, if there is
none, the first sublocation that has it as its name. -/
def place? (world : Snapshot) (key : String) : Option Place :=
  ((declarer? world.nodes .location (Text.lowercase key)).map Place.location).or
    ((sublocationNamed? world.nodes (Text.lowercase key)).map Place.sublocation)

/-- The value under the last of the keys that stand for a place. -/
def lastValue? (world : Snapshot) (spawns : List (String × Float)) (place : Place) :
    Option Float :=
  (spawns.filter fun spawn => decide (world.place? spawn.1 = some place)).getLast?.map Prod.snd

/-- A key of a spawn table stands for a place that a spawn edge of the node offers, with the value
of the last key of the table for that place. -/
def HonoursPlace (world : Snapshot) (entry : Entry) (node : Node) (key : String) : Prop :=
  ∃ place value, world.place? key = some place ∧
    world.lastValue? entry.spawnTable.entries place = some value ∧
    ∃ edge ∈ world.edgesOf .spawn, edge.source = node.id ∧
      match place with
      | .location id => edge.target = id ∧ ∃ overrides, edge.kind = .spawn value overrides
      | .sublocation ref => edge.target = ref.parent ∧
          edge.kind.overrides.get? ref.name = some value

/-- A keyword leads to a node of a kind that is the given one or is joined with it. -/
def HonoursWord (world : Snapshot) (kind : NodeType) (type : EdgeType) (node : Node)
    (key : String) : Prop :=
  ∃ other, declarer? world.nodes kind (Text.lowercase key) = some other ∧
    (other = node.id ∨ world.Joined type node.id other)

end Snapshot

/-- Every reference of the entries is reported or takes effect in the world. -/
structure Outcome.Honours (outcome : Outcome) (entries : List Entry) : Prop where
  /-- What is reported as unresolved, in order. -/
  unresolved : outcome.report.unresolved = unresolvedReferences entries
  /-- The characters and events are made of their entries one by one, and their keys for declared
  places are offered by spawn edges. -/
  spawns : List.Forall₂
    (fun entry node => entry.Makes node ∧ ∀ key ∈ entry.placeKeys,
      HasKeyword entries .location key ∨ HasSublocation entries key →
        outcome.world.HonoursPlace entry node key)
    (entries.filter fun entry => decide entry.IsCast)
    (outcome.world.nodes.filter fun node =>
      decide (node.type = .character ∨ node.type = .event))
  /-- The locations are made of their entries one by one, and are joined with the locations that
  their triggers name. -/
  triggers : List.Forall₂
    (fun entry node => entry.Makes node ∧ ∀ key ∈ entry.triggers,
      HasKeyword entries .location key →
        outcome.world.HonoursWord .location .adjacent node key)
    (entries.filter fun entry => decide (entry.category = .location))
    (outcome.world.nodesOf .location)
  /-- The characters are made of their entries one by one, and are joined with the characters that
  they know. -/
  knows : List.Forall₂
    (fun entry node => entry.Makes node ∧ ∀ key ∈ entry.knownKeys,
      HasKeyword entries .character key →
        outcome.world.HonoursWord .character .knows node key)
    (entries.filter fun entry => decide (entry.category = .character))
    (outcome.world.nodesOf .character)

namespace Draft

/-- The findings of references are those that are told of the words that nothing declares. -/
theorem lost_map {μ : Type} {items : List μ} {reference : μ → Reference} {declared : μ → Bool}
    {tell : μ → Finding}
    (each : ∀ item ∈ items,
      (reference item).getLeft? = if declared item then none else some (tell item)) :
    lost (items.map reference) = (items.filter fun item => !declared item).map tell := by
  rw [lost, List.filterMap_map, ← List.filterMap_eq_map, List.filterMap_filter]
  refine List.filterMap_congr fun item member => (each item member).trans ?_
  cases declared item <;> rfl

/-- The sublocation that a key names is the one that its own name leads to. -/
theorem get?_name_of_namedSublocation? {draft : Draft} (indexed : draft.Indexed) {key : String}
    {ref : SublocationRef} (named : draft.namedSublocation? key = some ref) :
    draft.sublocations.get? (Text.lowercase ref.name) = some ref := by
  have found := (indexed.of_namedSublocation? named).2
  obtain ⟨-, -, -, same⟩ := sublocationNamed?_eq_some found
  rw [indexed.sublocations, same, found]

section Whole

variable {config : Config} {total : Nat} {items : List (Nat × Entry)} {last : Draft}
  (whole : Assembled config total items last [])

include whole

/-! ## What is declared -/

theorem Assembled.hasKeyword_location_iff {key : String} :
    HasKeyword (items.map Prod.snd) .location key ↔
      last.locations.get? (Text.lowercase key) ≠ none := by
  rw [whole.indexed.locations]
  exact (declarer?_location_ne_none_iff whole.nodes).symm

theorem Assembled.hasKeyword_character_iff {key : String} :
    HasKeyword (items.map Prod.snd) .character key ↔
      last.characters.get? (Text.lowercase key) ≠ none := by
  rw [whole.indexed.characters]
  exact (declarer?_character_ne_none_iff whole.nodes).symm

theorem Assembled.hasSublocation_iff {key : String} :
    HasSublocation (items.map Prod.snd) key ↔
      last.sublocations.get? (Text.lowercase key) ≠ none := by
  rw [whole.indexed.sublocations]
  exact (sublocationNamed?_ne_none_iff whole.nodes).symm

/-- A key leads home just if it is declared. -/
theorem Assembled.home?_ne_none_iff {key : String} :
    last.home? key ≠ none ↔
      HasKeyword (items.map Prod.snd) .location key ∨
        HasSublocation (items.map Prod.snd) key := by
  rw [whole.hasKeyword_location_iff, whole.hasSublocation_iff, home?, namedSublocation?,
    namedLocation?]
  cases last.locations.get? (Text.lowercase key) <;> simp

/-! ## What is reported -/

theorem Assembled.lost_spawns {placed : Placement} :
    placed.lostSpawns config.graph last =
      placed.entry.lostReferences .canSpawnAt placed.entry.placeKeys fun key =>
        decide (HasKeyword (items.map Prod.snd) .location key ∨
          HasSublocation (items.map Prod.snd) key) := by
  unfold Placement.lostSpawns Entry.placeKeys Entry.lostReferences
  split
  · rfl
  · rw [unresolved_spawnTargets, Table.keys, List.filter_map]
    refine congrArg _ (congrArg _ (List.filter_congr fun spawn _ => ?_))
    have declared : last.home? spawn.1 ≠ none ↔ _ := whole.home?_ne_none_iff
    simp only [Function.comp_apply, decide_eq_decide.2 declared.symm, decide_not, Bool.not_not]

theorem Assembled.lost_triggers (member : ElementId × Entry) :
    lost (member.2.triggers.map (last.adjacencyReference member)) =
      member.2.lostReferences .triggers member.2.triggers fun key =>
        decide (HasKeyword (items.map Prod.snd) .location key) := by
  refine lost_map fun trigger _ => ?_
  have declared : HasKeyword (items.map Prod.snd) .location trigger ↔ _ :=
    whole.hasKeyword_location_iff
  unfold adjacencyReference
  cases found : last.locations.get? (Text.lowercase trigger) <;> simp [declared, found]

theorem Assembled.lost_acquaintances (cast : List (ElementId × Entry))
    (member : ElementId × Entry) :
    lost ((member.2.knows.getD .empty).entries.map (last.acquaintanceReference cast member)) =
      member.2.lostReferences .knows member.2.knownKeys fun key =>
        decide (HasKeyword (items.map Prod.snd) .character key) := by
  rw [Entry.lostReferences, Entry.knownKeys, Table.keys, List.filter_map, List.map_map]
  refine lost_map fun known _ => ?_
  have declared : HasKeyword (items.map Prod.snd) .character known.1 ↔ _ :=
    whole.hasKeyword_character_iff
  unfold acquaintanceReference
  cases found : last.characters.get? (Text.lowercase known.1) <;> simp [declared, found]

/-- What is reported as unresolved are the references whose word nothing declares. -/
theorem Assembled.unresolved_eq :
    last.outcome.report.unresolved = unresolvedReferences (items.map Prod.snd) := by
  have spawns : Placement.lostSpawns config.graph last = _ := funext fun _ => whole.lost_spawns
  have triggers (members : List (ElementId × Entry)) :
      lost (last.adjacencyReferences members) = _ :=
    List.filterMap_flatMap.trans (congrArg members.flatMap (funext whole.lost_triggers))
  have knows (cast : List (ElementId × Entry)) : lost (last.acquaintanceReferences cast) = _ :=
    List.filterMap_flatMap.trans (congrArg cast.flatMap (funext (whole.lost_acquaintances cast)))
  rw [whole.unresolved_outcome, triggerReferences, knowsReferences, spawns, triggers, knows,
    unresolvedReferences, castMembers, List.flatMap_map, List.flatMap_map,
    ← map_entry_castPlacements, ← map_entry_locationPlacements, ← map_entry_characterPlacements,
    List.flatMap_map, List.flatMap_map, List.flatMap_map]
  rfl

/-! ## Places that keys stand for -/

theorem Assembled.place?_eq (key : String) :
    last.outcome.world.place? key =
      ((last.namedLocation? key).map Place.location).or
        ((last.namedSublocation? key).map Place.sublocation) := by
  change ((declarer? last.nodes .location (Text.lowercase key)).map Place.location).or
    ((sublocationNamed? last.nodes (Text.lowercase key)).map Place.sublocation) = _
  rw [← whole.indexed.locations, ← whole.indexed.sublocations, namedSublocation?, namedLocation?]
  cases last.locations.get? (Text.lowercase key) <;> rfl

theorem Assembled.place?_eq_location_iff {key : String} {home : ElementId} :
    last.outcome.world.place? key = some (.location home) ↔
      last.namedLocation? key = some home := by
  rw [whole.place?_eq]
  cases last.namedLocation? key <;> simp

theorem Assembled.place?_eq_sublocation_iff {key : String} {ref : SublocationRef} :
    last.outcome.world.place? key = some (.sublocation ref) ↔
      last.namedSublocation? key = some ref := by
  rw [whole.place?_eq]
  cases direct : last.namedLocation? key <;> simp [namedSublocation?, direct]

/-- The probability of a location is the value of the last key for it. -/
theorem Assembled.chanceAt_eq_lastValue? (settings : GraphSettings)
    (spawns : List (String × Float)) (home : ElementId) :
    chanceAt settings last spawns home =
      (last.outcome.world.lastValue? spawns (.location home)).getD
        settings.defaultSpawnProbability := by
  simp only [chanceAt, Snapshot.lastValue?, whole.place?_eq_location_iff]

/-- The override of a sublocation is the value of the last key for it. -/
theorem Assembled.get?_overridesAt (spawns : List (String × Float)) {ref : SublocationRef}
    (own : last.sublocations.get? (Text.lowercase ref.name) = some ref) :
    (Table.ofList (last.overridesAt spawns ref.parent)).get? ref.name =
      last.outcome.world.lastValue? spawns (.sublocation ref) := by
  refine Table.get?_ofList_filterMap fun spawn => ?_
  simp only [whole.place?_eq_sublocation_iff]
  cases named : last.namedSublocation? spawn.1 with
  | none => simp
  | some other =>
    by_cases same : other = ref
    · simp [same, Option.filter]
    · have apart : ¬ other.name = ref.name := by
        intro name
        have found := get?_name_of_namedSublocation? whole.indexed named
        rw [name, own] at found
        exact same (Option.some.inj found).symm
      by_cases inside : other.parent = ref.parent <;> simp [same, apart, inside, Option.filter]

omit whole in
/-- A place that some key stands for has a last value. -/
theorem exists_lastValue? {world : Snapshot} {spawns : List (String × Float)}
    {spawn : String × Float} (listed : spawn ∈ spawns) {place : Place}
    (found : world.place? spawn.1 = some place) :
    ∃ value, world.lastValue? spawns place = some value := by
  refine Option.ne_none_iff_exists'.1 fun absent => ?_
  have none := List.getLast?_eq_none_iff.1 (Option.map_eq_none_iff.1 absent)
  exact List.filter_eq_nil_iff.1 none spawn listed (decide_eq_true found)

/-! ## References that take effect -/

/-- Each place that a spawn table leads to is the target of a spawn edge. -/
theorem Assembled.exists_spawnEdge {placed : Placement}
    (member : placed ∈ castPlacements config total items)
    (bound : placed.entry.isAnywhere = false) {spawn : String × Float}
    (listed : spawn ∈ placed.entry.spawnTable.entries) {home : ElementId}
    (found : last.home? spawn.1 = some home) :
    ∃ edge ∈ last.outcome.world.edgesOf .spawn, edge.source = placed.id ∧ edge.target = home ∧
      edge.kind = .spawn (chanceAt config.graph last placed.entry.spawnTable.entries home)
        (.ofList (last.overridesAt placed.entry.spawnTable.entries home)) := by
  have target : home ∈ last.homes placed.entry.spawnTable.entries :=
    mem_distinct.2 (List.mem_filterMap.2 ⟨spawn, listed, found⟩)
  let link : Link := ⟨placed.id, home,
    .spawn (chanceAt config.graph last placed.entry.spawnTable.entries home)
      (.ofList (last.overridesAt placed.entry.spawnTable.entries home))⟩
  have linked : link ∈ placed.spawnLinks config.graph last := by
    rw [Placement.spawnLinks, bound, if_neg Bool.false_ne_true, entries_spawnTargets, List.map_map]
    exact List.mem_map.2 ⟨home, target, rfl⟩
  obtain ⟨edge, isEdge, same⟩ := whole.exists_edge_of_link (List.mem_append_left _
    (List.mem_append_left _ (List.mem_flatMap.2 ⟨placed, member, linked⟩)))
  have kind : edge.kind = link.kind := congrArg Link.kind same
  refine ⟨edge, Snapshot.mem_edgesOf.2 ⟨isEdge, ?_⟩, congrArg Link.source same,
    congrArg Link.target same, kind⟩
  rw [Edge.type, kind]
  rfl

/-- Every key for a declared place is offered by a spawn edge. -/
theorem Assembled.honoursPlace {placed : Placement}
    (member : placed ∈ castPlacements config total items) {key : String}
    (listed : key ∈ placed.entry.placeKeys)
    (declared : HasKeyword (items.map Prod.snd) .location key ∨
      HasSublocation (items.map Prod.snd) key) :
    last.outcome.world.HonoursPlace placed.entry (placed.node config.graph) key := by
  unfold Entry.placeKeys at listed
  split at listed
  · cases listed
  · rename_i bound
    obtain ⟨spawn, inside, rfl⟩ := List.mem_map.1 listed
    obtain ⟨home, found⟩ := Option.ne_none_iff_exists'.1 (whole.home?_ne_none_iff.2 declared)
    obtain ⟨edge, isEdge, fromHere, toThere, kind⟩ :=
      whole.exists_spawnEdge member (Bool.eq_false_iff.2 bound) inside found
    rcases Option.or_eq_some_iff.1 found with direct | ⟨-, through⟩
    · have place := whole.place?_eq_location_iff.2 direct
      obtain ⟨value, counts⟩ := exists_lastValue? inside place
      rw [whole.chanceAt_eq_lastValue?, counts, Option.getD_some] at kind
      exact ⟨_, value, place, counts, edge, isEdge, fromHere, toThere, _, kind⟩
    · obtain ⟨ref, named, rfl⟩ := Option.map_eq_some_iff.1 through
      have place := whole.place?_eq_sublocation_iff.2 named
      obtain ⟨value, counts⟩ := exists_lastValue? inside place
      refine ⟨_, value, place, counts, edge, isEdge, fromHere, toThere, ?_⟩
      rw [kind, EdgeKind.overrides,
        whole.get?_overridesAt _ (get?_name_of_namedSublocation? whole.indexed named), counts]

/-- What is mentioned is joined in the end, if its links are made once for each pair. -/
theorem Assembled.joined_of_mention {type : EdgeType} {links : List Link}
    (made : ∀ link ∈ linksOnce [] links, link ∈ last.links config total items)
    (typed : ∀ link ∈ links, link.kind.type = type) {link : Link} (member : link ∈ links)
    (differ : link.target ≠ link.source) :
    last.outcome.world.Joined type link.source link.target := by
  obtain ⟨one, once, joins⟩ := joined_of_mem [] member differ
  obtain ⟨edge, isEdge, rfl⟩ := whole.exists_edge_of_link (made one once)
  have isTyped := typed _ ((linksOnce_sublist _ _).subset once)
  exact ⟨edge, Snapshot.mem_edgesOf.2 ⟨isEdge, isTyped⟩, decide_eq_true joins⟩

/-- Every trigger for a declared location leads to its own location or to one joined with it. -/
theorem Assembled.honoursTrigger {placed : Placement}
    (member : placed ∈ locationPlacements config total items) {key : String}
    (listed : key ∈ placed.entry.triggers)
    (declared : HasKeyword (items.map Prod.snd) .location key) :
    last.outcome.world.HonoursWord .location .adjacent (placed.node config.graph) key := by
  obtain ⟨other, found⟩ := Option.ne_none_iff_exists'.1 (whole.hasKeyword_location_iff.1 declared)
  refine ⟨other, (whole.indexed.locations _).symm.trans found, ?_⟩
  refine or_iff_not_imp_left.2 fun differ => ?_
  have mention := mem_linked.2 (mem_adjacencyReferences.2
    ⟨_, List.mem_map_of_mem (f := Placement.member) member, key, listed, other, found, rfl⟩)
  exact whole.joined_of_mention
    (fun link once => List.mem_append_left _ (List.mem_append_right _ once))
    (fun link inside => type_of_mem_adjacencyReferences (mem_linked.1 inside)) mention differ

/-- Every acquaintance that is declared is the character itself or one joined with it. -/
theorem Assembled.honoursAcquaintance {placed : Placement}
    (member : placed ∈ (castPlacements config total items).filter fun one =>
      decide (one.entry.category = .character)) {key : String}
    (listed : key ∈ placed.entry.knownKeys)
    (declared : HasKeyword (items.map Prod.snd) .character key) :
    last.outcome.world.HonoursWord .character .knows (placed.node config.graph) key := by
  obtain ⟨known, inside, rfl⟩ := List.mem_map.1 listed
  obtain ⟨other, found⟩ := Option.ne_none_iff_exists'.1 (whole.hasKeyword_character_iff.1 declared)
  refine ⟨other, (whole.indexed.characters _).symm.trans found, ?_⟩
  refine or_iff_not_imp_left.2 fun differ => ?_
  have mention := mem_linked.2 (mem_acquaintanceReferences.2
    ⟨_, List.mem_map_of_mem (f := Placement.member) member, known, inside, other, found, rfl⟩)
  exact whole.joined_of_mention (fun link once => List.mem_append_right _ once)
    (fun link inside => type_of_mem_acquaintanceReferences (mem_linked.1 inside)) mention differ

/-- Whatever a draft has been assembled from, its outcome honours the references. -/
theorem Assembled.honours : last.outcome.Honours (items.map Prod.snd) where
  unresolved := whole.unresolved_eq
  spawns := by
    rw [filter_cast_nodes whole.nodes, ← @map_entry_castPlacements config total items]
    exact forall₂_map_map fun placed member =>
      ⟨makes_node_of_mem_cast member, fun key => whole.honoursPlace member⟩
  triggers := by
    rw [nodesOf_location whole.nodes, ← @map_entry_locationPlacements config total items]
    exact forall₂_map_map fun placed member =>
      ⟨makes_node_of_mem_locations member, fun key => whole.honoursTrigger member⟩
  knows := by
    rw [nodesOf_character whole.nodes, ← @map_entry_characterPlacements config total items]
    exact forall₂_map_map fun placed member =>
      ⟨makes_node_of_mem_cast (List.mem_filter.1 member).1,
        fun key => whole.honoursAcquaintance member⟩

end Whole

end Draft

/-! ## The main statement -/

/-- What an import makes of entries honours their references. -/
theorem honours_importDraft (config : Config) (entries : List Entry) :
    (importDraft config entries).outcome.Honours entries := by
  have honours := (Draft.assembled config entries.length
    ((List.range entries.length).zip entries) []).honours
  rwa [List.map_snd_zip (by simp)] at honours

/-- **Every reference is reported or takes effect**, whatever entries are imported. Importing them
fails only where there are not enough ordinals for the nodes or the edges that come of them. -/
theorem importEntries_honours (config : Config) (entries : List Entry) :
    (∃ outcome, importEntries config entries = .ok outcome ∧ outcome.Honours entries) ∨
      (importEntries config entries = .error (.refused (.idsExhausted .node)) ∧
        ElementId.maxOrdinal < (importDraft config entries).nodes.length) ∨
      (importEntries config entries = .error (.refused (.idsExhausted .edge)) ∧
        ElementId.maxOrdinal < (importDraft config entries).edges.length) :=
  (importEntries_cases config entries).imp_left fun imported =>
    ⟨_, imported, honours_importDraft config entries⟩

end StoryWorld

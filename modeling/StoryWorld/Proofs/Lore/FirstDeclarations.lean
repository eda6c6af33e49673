import StoryWorld.Proofs.Lore.CarriedFields
import StoryWorld.Proofs.Lore.Findings
import StoryWorld.Proofs.Lore.RebuiltPairs

/-!
# The first declaration wins

Locations, characters and sublocations have their words to themselves: whoever declares a word
first keeps it. What the tables of an import hold after its entries have been declared
(`declaredDraft`) is said of the entries alone: a keyword leads to the first entry that has it among
its keywords, a name to the first sublocation that is listed under it, in whatever letters
(`Table.FirstCome`). The collisions that are reported are the other declarations, in order and each
with the one that won (`Outcome.DeclaresFirst`).

`importEntries_declaresFirst` is the statement about all lists of entries.
-/

set_option autoImplicit false

namespace StoryWorld

/-! ## First come -/

/-- A table gives each word to the first of several items that has it. -/
structure Table.FirstCome {ι α : Type} (table : Table String α) (items : List ι)
    (has : String → ι → Prop) (value : ι → α) : Prop where
  /-- A word leads to the first item that has it, and to nothing if there is none. -/
  bound : ∀ word found, table.get? word = some found ↔
    ∃ item, FirstWith (has word) items item ∧ value item = found
  /-- A word of an item leads to that item or to an earlier one. -/
  earlier : ∀ item ∈ items, ∀ word, has word item →
    ∃ first, table.get? word = some (value first) ∧
      (first = item ∨ StandsBefore items first item)

theorem Table.FirstCome.of_find? {ι α : Type} {table : Table String α} {items : List ι}
    {has : String → ι → Prop} {value : ι → α} [∀ word, DecidablePred (has word)]
    (found : ∀ word,
      table.get? word = (items.find? fun item => decide (has word item)).map value) :
    table.FirstCome items has value where
  bound := fun word one => by
    rw [found, Option.map_eq_some_iff]
    exact exists_congr fun item =>
      and_congr_left' (find?_eq_some_iff_firstWith fun _ => decide_eq_true_iff)
  earlier := fun item member word own => by
    cases chosen : items.find? fun item => decide (has word item) with
    | none => exact absurd (decide_eq_true own) (List.find?_eq_none.1 chosen item member)
    | some first =>
      have isFirst := (find?_eq_some_iff_firstWith fun _ => decide_eq_true_iff).1 chosen
      refine ⟨first, ?_, isFirst.eq_or_standsBefore member own⟩
      rw [found, chosen, Option.map_some]

/-- What some items make is made by those items alone. -/
theorem flatMap_ite_nil {α β : Type} {chosen : α → Prop} [DecidablePred chosen] {make : α → List β}
    (items : List α) :
    (items.flatMap fun item => if chosen item then make item else []) =
      (items.filter fun item => decide (chosen item)).flatMap make := by
  induction items with
  | nil => rfl
  | cons item rest ih =>
    by_cases here : chosen item <;> simp [here, ih]

/-! ## What is declared, and what collides -/

/-- The names that the sublocations of a location declare, in order. -/
def Snapshot.refsOf (world : Snapshot) (place : Node) : List SublocationRef :=
  (world.sublocationsOf place.id).map fun room => ⟨room.id, place.id, room.name⟩

namespace Draft

/-- The collision of a sublocation: its name leads to another one. -/
def nameCollision? (names : Table String SublocationRef) (ref : SublocationRef) : Option Finding :=
  match names.get? (Text.lowercase ref.name) with
  | some kept =>
    if kept.id = ref.id then none else some (.sublocationCollision ref.name kept.id ref.id)
  | none => none

end Draft

/-- The draft of an import after the passes over the locations and over the characters and events,
in which the entries are declared. -/
def declaredDraft (config : Config) (entries : List Entry) : Draft :=
  let items := (List.range entries.length).zip entries
  let draft := Draft.start (items.filterMap Draft.unknownCategory?)
  let locations := Draft.locationPass config entries.length draft items
  (Draft.castPass config entries.length locations.draft items).draft

/-- In a draft whose entries have been declared the first declaration of each word counts, and the
others are reported. -/
structure Outcome.DeclaresFirst (outcome : Outcome) (declared : Draft) (entries : List Entry) :
    Prop where
  /-- The locations and characters are made of their entries one by one. -/
  locations : List.Forall₂ Entry.Makes (ofCategory .location entries)
    (outcome.world.nodesOf .location)
  characters : List.Forall₂ Entry.Makes (ofCategory .character entries)
    (outcome.world.nodesOf .character)
  /-- Each location has the sublocations that its entry lists, in order. -/
  sublocations : List.Forall₂
    (fun entry place =>
      (outcome.world.refsOf place).map SublocationRef.name = entry.sublocationNames)
    (ofCategory .location entries) (outcome.world.nodesOf .location)
  /-- Nodes have different identities. -/
  distinct : (outcome.world.nodes.map Node.id).Nodup
  /-- A keyword leads to the first location that has it, letter case aside. -/
  locationWords : declared.locations.FirstCome
    ((ofCategory .location entries).zip (outcome.world.nodesOf .location))
    (fun word pair => word ∈ pair.1.keywords.map Text.lowercase) fun pair => pair.2.id
  /-- Characters have keywords of their own, which lead to the first character that has them. -/
  characterWords : declared.characters.FirstCome
    ((ofCategory .character entries).zip (outcome.world.nodesOf .character))
    (fun word pair => word ∈ pair.1.keywords.map Text.lowercase) fun pair => pair.2.id
  /-- A name leads to the first sublocation of all that are listed under it. -/
  names : declared.sublocations.FirstCome
    ((outcome.world.nodesOf .location).flatMap outcome.world.refsOf)
    (fun word ref => Text.lowercase ref.name = word) id
  /-- The keywords of a location that lead to another one are reported, then the names of its
  sublocations that lead to others; then the keywords of characters that lead to others. -/
  collisions : outcome.report.collisions =
    (((ofCategory .location entries).zip (outcome.world.nodesOf .location)).flatMap fun pair =>
      Draft.keywordCollisions .location declared.locations pair.2.id pair.1.keywords ++
        (outcome.world.refsOf pair.2).filterMap (Draft.nameCollision? declared.sublocations)) ++
    ((ofCategory .character entries).zip (outcome.world.nodesOf .character)).flatMap fun pair =>
      Draft.keywordCollisions .character declared.characters pair.2.id pair.1.keywords
  /-- No entry collides with itself. -/
  apart : ∀ scope keyword kept ignored,
    Finding.keywordCollision scope keyword kept ignored ∈ outcome.report.collisions →
      kept ≠ ignored

namespace Draft

variable {config : Config} {total : Nat} {items : List (Nat × Entry)} {last : Draft}

/-! ## Who is first among the entries -/

theorem declarer?_eq_find?_nodesOf (world : Snapshot) (type : NodeType) (word : String) :
    declarer? world.nodes type word =
      ((world.nodesOf type).find? fun node =>
        decide (word ∈ node.keywords.map Text.lowercase)).map Node.id := by
  have test : Node.declares type word = fun node => decide (decide (node.type = type) = true ∧
      decide (word ∈ node.keywords.map Text.lowercase) = true) :=
    funext fun _ => by simp only [Node.declares, decide_eq_true_eq]
  rw [declarer?, Snapshot.nodesOf, List.find?_filter, test]

/-! ## What collides -/

/-- Collisions depend on nothing but the nodes. -/
theorem Indexed.collisionsOf_eq {draft other : Draft} (indexed : draft.Indexed)
    (otherIndexed : other.Indexed) (nodes : other.nodes = draft.nodes) :
    other.collisionsOf = draft.collisionsOf := by
  funext node
  simp only [collisionsOf, keywordCollisions, indexed.locations, indexed.characters,
    indexed.sublocations, otherIndexed.locations, otherIndexed.characters,
    otherIndexed.sublocations, nodes]

/-- The keywords of a node collide with those of others only. -/
theorem kept_ne_of_mem_keywordCollisions {names : Table String ElementId} {own : ElementId}
    {keywords : List String} {type scope : NodeType} {keyword : String} {kept ignored : ElementId}
    (member : .keywordCollision scope keyword kept ignored ∈
      keywordCollisions type names own keywords) : kept ≠ ignored := by
  obtain ⟨word, -, found⟩ := List.mem_filterMap.1 member
  split at found
  · split at found
    · cases found
    · rename_i differ
      cases found
      exact differ
  · cases found

/-- No node collides with itself. -/
theorem kept_ne_of_mem_collisionsOf {node : Node} {scope : NodeType} {keyword : String}
    {kept ignored : ElementId}
    (member : .keywordCollision scope keyword kept ignored ∈ last.collisionsOf node) :
    kept ≠ ignored := by
  unfold collisionsOf at member
  split at member
  · exact kept_ne_of_mem_keywordCollisions member
  · exact kept_ne_of_mem_keywordCollisions member
  · cases member
  · split at member
    · split at member
      · cases member
      · cases List.mem_singleton.1 member
    · cases member

theorem collisionsOf_of_isLocation (settings : GraphSettings) (draft : Draft)
    {placed : Placement} (isLocation : placed.entry.IsLocation) :
    draft.collisionsOf (placed.node settings) =
      keywordCollisions .location draft.locations placed.id placed.entry.keywords := by
  have kind : (placed.node settings).kind = .location := by
    change placed.entry.nodeKind settings = _
    rw [Entry.nodeKind, isLocation]
  rw [collisionsOf, kind]
  rfl

/-- Among the cast only characters declare words. -/
theorem collisionsOf_of_isCast (settings : GraphSettings) (draft : Draft) {placed : Placement}
    (cast : placed.entry.IsCast) :
    draft.collisionsOf (placed.node settings) =
      if placed.entry.category = .character then
        keywordCollisions .character draft.characters placed.id placed.entry.keywords
      else [] := by
  have kind : (placed.node settings).kind = placed.entry.nodeKind settings := rfl
  rw [collisionsOf, kind, Entry.nodeKind]
  rcases cast with category | category
  · rw [category, if_pos rfl]
    rfl
  · rw [category, if_neg (by decide)]

/-- The collision of a sublocation is that of its name. -/
theorem collisionsOf_of_ref? (draft : Draft) {node : Node} {ref : SublocationRef}
    (own : node.ref? = some ref) :
    draft.collisionsOf node = (nameCollision? draft.sublocations ref).toList := by
  obtain ⟨parent, kind, rfl⟩ := Node.kind_of_ref? own
  rw [collisionsOf, kind, nameCollision?]
  cases draft.sublocations.get? (Text.lowercase node.name) with
  | none => rfl
  | some kept =>
    by_cases same : kept.id = node.id
    · simp [same]
    · simp [same]

theorem flatMap_collisionsOf_sublocations (settings : GraphSettings) (draft : Draft)
    (placed : Placement) :
    (placed.sublocations settings).flatMap draft.collisionsOf =
      ((placed.sublocations settings).filterMap Node.ref?).filterMap
        (nameCollision? draft.sublocations) := by
  rw [List.filterMap_filterMap, List.filterMap_eq_flatMap_toList]
  refine List.flatMap_congr fun room member => ?_
  obtain ⟨ref, own, -⟩ := Placement.ref?_of_mem_sublocations member
  rw [collisionsOf_of_ref? draft own, own]
  rfl

section Whole

variable (whole : Assembled config total items last [])

include whole

theorem Assembled.declarer?_eq_find?_zip {kind : NodeType} {type : EdgeType}
    (bond : Mutual kind type) {entries : List Entry}
    (own : (mentioners config total items type).map Placement.entry = entries) (word : String) :
    declarer? last.nodes kind word =
      ((entries.zip (last.outcome.world.nodesOf kind)).find? fun pair =>
        decide (word ∈ pair.1.keywords.map Text.lowercase)).map fun pair => pair.2.id := by
  have made := declarer?_eq_find?_nodesOf last.outcome.world kind word
  rw [nodesOf_mentioners whole.nodes bond, List.find?_map, Option.map_map] at made
  rw [whole.zip_nodesOf bond own, List.find?_map, Option.map_map]
  exact made

/-- What the sublocations of a placed location declare. -/
theorem Assembled.refsOf_placed {placed : Placement}
    (member : placed ∈ locationPlacements config total items) :
    last.outcome.world.refsOf (placed.node config.graph) =
      (placed.sublocations config.graph).filterMap Node.ref? := by
  have rooms : last.outcome.world.sublocationsOf (placed.node config.graph).id =
      placed.sublocations config.graph := whole.sublocationsOf_placed member
  rw [Snapshot.refsOf, rooms, eq_comm, List.filterMap_eq_map_iff_forall_eq_some]
  intro room inside
  rw [Node.ref?, Placement.parent_of_mem_sublocations inside]
  rfl

/-- The declared names are those of the sublocations, location by location. -/
theorem Assembled.filterMap_ref? :
    last.nodes.filterMap Node.ref? =
      (last.outcome.world.nodesOf .location).flatMap last.outcome.world.refsOf := by
  have cast : ((castPlacements config total items).map (Placement.node config.graph)).filterMap
      Node.ref? = [] := by
    refine List.filterMap_eq_nil_iff.2 fun node inside => ?_
    obtain ⟨placed, -, rfl⟩ := List.mem_map.1 inside
    exact Placement.ref?_node config.graph placed
  rw [nodesOf_location whole.nodes, whole.nodes, importedNodes, List.filterMap_append, cast,
    List.append_nil, List.filterMap_flatMap, List.flatMap_map]
  refine List.flatMap_congr fun placed member => ?_
  rw [whole.refsOf_placed member, Placement.nodes, List.filterMap_cons,
    Placement.ref?_node config.graph placed]

/-- The collisions of an import, entry by entry, by what the words lead to in a draft with the same
nodes. -/
theorem Assembled.collisions_eq {draft : Draft} (indexed : draft.Indexed)
    (nodes : draft.nodes = last.nodes) :
    last.outcome.report.collisions =
      ((locationPlacements config total items).flatMap fun placed =>
        keywordCollisions .location draft.locations placed.id placed.entry.keywords ++
          (last.outcome.world.refsOf (placed.node config.graph)).filterMap
            (nameCollision? draft.sublocations)) ++
      ((castPlacements config total items).filter fun placed =>
        decide (placed.entry.category = .character)).flatMap fun placed =>
          keywordCollisions .character draft.characters placed.id placed.entry.keywords := by
  have same : last.collisionsOf = draft.collisionsOf :=
    indexed.collisionsOf_eq whole.indexed nodes.symm
  have places : ∀ placed ∈ locationPlacements config total items,
      (placed.nodes config.graph).flatMap draft.collisionsOf =
        keywordCollisions .location draft.locations placed.id placed.entry.keywords ++
          (last.outcome.world.refsOf (placed.node config.graph)).filterMap
            (nameCollision? draft.sublocations) := by
    intro placed member
    rw [Placement.nodes, List.flatMap_cons, flatMap_collisionsOf_sublocations,
      collisionsOf_of_isLocation config.graph draft (isLocation_of_mem member),
      whole.refsOf_placed member]
  have cast : ∀ placed ∈ castPlacements config total items,
      draft.collisionsOf (placed.node config.graph) =
        if placed.entry.category = .character then
          keywordCollisions .character draft.characters placed.id placed.entry.keywords
        else [] :=
    fun placed member => collisionsOf_of_isCast config.graph draft (isCast_of_mem member)
  rw [whole.collisions_outcome, same, whole.nodes, importedNodes, List.flatMap_append,
    List.flatMap_assoc, List.flatMap_congr places, List.flatMap_map, List.flatMap_congr cast,
    flatMap_ite_nil]

/-- The names of what the sublocations of a placed location declare are those of its entry. -/
theorem Assembled.map_name_refsOf {placed : Placement}
    (member : placed ∈ locationPlacements config total items) :
    (last.outcome.world.refsOf (placed.node config.graph)).map SublocationRef.name =
      placed.entry.sublocationNames := by
  have rooms : last.outcome.world.sublocationsOf (placed.node config.graph).id =
      placed.sublocations config.graph := whole.sublocationsOf_placed member
  rw [Snapshot.refsOf, rooms, List.map_map,
    ← Placement.map_name_sublocations config.graph (isLocation_of_mem member)]
  rfl

/-- Whatever a draft has been assembled from, the first declarations count in any draft in order
that has the same nodes. -/
theorem Assembled.declaresFirst {draft : Draft} (indexed : draft.Indexed)
    (nodes : draft.nodes = last.nodes) :
    last.outcome.DeclaresFirst draft (items.map Prod.snd) where
  locations := whole.forall₂_makes .adjacent map_entry_locationPlacements
  characters := whole.forall₂_makes .knows map_entry_characterPlacements
  sublocations := by
    rw [nodesOf_location whole.nodes, ofCategory, ← @map_entry_locationPlacements config total]
    exact forall₂_map_map fun _ => whole.map_name_refsOf
  distinct := whole.indexed.nodup
  locationWords := .of_find? fun word => by
    rw [indexed.locations, nodes, ofCategory,
      whole.declarer?_eq_find?_zip .adjacent map_entry_locationPlacements]
  characterWords := .of_find? fun word => by
    rw [indexed.characters, nodes, ofCategory,
      whole.declarer?_eq_find?_zip .knows map_entry_characterPlacements]
  names := .of_find? fun word => by
    rw [indexed.sublocations, nodes, sublocationNamed?, whole.filterMap_ref?, Option.map_id_apply]
  collisions := by
    rw [whole.collisions_eq indexed nodes, ofCategory, ofCategory,
      whole.zip_nodesOf .adjacent map_entry_locationPlacements,
      whole.zip_nodesOf .knows map_entry_characterPlacements, List.flatMap_map, List.flatMap_map]
    rfl
  apart := by
    intro scope keyword kept ignored member
    rw [whole.collisions_outcome] at member
    obtain ⟨node, -, inside⟩ := List.mem_flatMap.1 member
    exact kept_ne_of_mem_collisionsOf inside

end Whole

end Draft

/-! ## The draft in which the entries have been declared -/

open Draft

theorem declaredDraft_eq (config : Config) (entries : List Entry) :
    declaredDraft config entries =
      enrolled config entries.length ((List.range entries.length).zip entries) [] :=
  congrArg Pass.draft (castPass_locationPass config entries.length _ [])

theorem indexed_declaredDraft (config : Config) (entries : List Entry) :
    (declaredDraft config entries).Indexed := by
  rw [declaredDraft_eq]
  exact (enrolled_enrolled config entries.length _ []).indexed

theorem nodes_declaredDraft (config : Config) (entries : List Entry) :
    (declaredDraft config entries).nodes = (importDraft config entries).nodes := by
  rw [declaredDraft_eq, nodes_enrolled, (assembled_importDraft config entries).nodes]

theorem declaresFirst_importDraft (config : Config) (entries : List Entry) :
    (importDraft config entries).outcome.DeclaresFirst (declaredDraft config entries) entries := by
  have first := (assembled_importDraft config entries).declaresFirst
    (indexed_declaredDraft config entries) (nodes_declaredDraft config entries)
  rwa [map_snd_zip_range] at first

/-! ## The main statement -/

/-- **The first declaration wins, and every other one is reported**, whatever entries are imported.
Importing them fails only where there are not enough ordinals for the nodes or the edges that come
of them. -/
theorem importEntries_declaresFirst (config : Config) (entries : List Entry) :
    (∃ outcome, importEntries config entries = .ok outcome ∧
      outcome.DeclaresFirst (declaredDraft config entries) entries) ∨
      (importEntries config entries = .error (.refused (.idsExhausted .node)) ∧
        ElementId.maxOrdinal < (importDraft config entries).nodes.length) ∨
      (importEntries config entries = .error (.refused (.idsExhausted .edge)) ∧
        ElementId.maxOrdinal < (importDraft config entries).edges.length) :=
  (importEntries_cases config entries).imp_left fun imported =>
    ⟨_, imported, declaresFirst_importDraft config entries⟩

/-- Both a keyword and a name are declared twice by one entry and again by the next. -/
example :
    (importEntries {}
      [({ Entry.blank .location "Old Forest" with
            keywords := ["Forest", "FOREST"] }.withSublocation "Den").withSublocation "DEN",
        { Entry.blank .location "New Forest" with
            keywords := ["grove", "forest"] }.withSublocation "den",
        { Entry.blank .character "Bob" with keywords := ["bob", "forest"] },
        { Entry.blank .character "Rob" with keywords := ["rob", "BOB"] }]).toOption.map
        (fun outcome => outcome.report.collisions) =
      some [
        .sublocationCollision "DEN" ⟨"subloc_2"⟩ ⟨"subloc_3"⟩,
        .keywordCollision .location "forest" ⟨"loc_1"⟩ ⟨"loc_4"⟩,
        .sublocationCollision "den" ⟨"subloc_2"⟩ ⟨"subloc_5"⟩,
        .keywordCollision .character "BOB" ⟨"char_6"⟩ ⟨"char_7"⟩] := by
  decide +kernel

end StoryWorld

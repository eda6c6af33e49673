import StoryWorld.Proofs.Lore.ClearImport
import StoryWorld.Proofs.Lore.RoundTrip

/-!
# What changes without a finding

A world is exported and its entries are imported again without a finding. One could hope that
nothing has changed then, but a finding tells only of a word that leads nowhere, or that two nodes
of one kind have. Names of sublocations and keywords of locations are different kinds of words, and
a key of a spawn table may be meant as the one and be followed as the other.

So triggers and sublocations come back as they were, and each spawn table does just if its keys are
written as an export writes them (`Snapshot.compareRoundTrip_mismatches_iff`).
-/

set_option autoImplicit false

namespace StoryWorld

/-! ## Comparisons of entries -/

/-- Entries about locations that have the same triggers and sublocations do not differ. -/
theorem Entry.mismatches_of_isLocation {entry other : Entry} (isLocation : entry.IsLocation)
    (triggers : ∀ word, word ∈ entry.triggers ↔ word ∈ other.triggers)
    (names : ∀ name, name ∈ entry.sublocationNames ↔ name ∈ other.sublocationNames) :
    entry.mismatches other = [] := by
  unfold mismatches derived
  rw [if_pos isLocation, if_pos isLocation]
  simp [DerivedValue.same, sameWords_of_mem_iff triggers, sameWords_of_mem_iff names]

/-- Entries about characters or events that have the same triggers differ in their spawn tables
only. -/
theorem Entry.mismatches_of_isCast {entry other : Entry} (isCast : entry.IsCast)
    (triggers : ∀ word, word ∈ entry.triggers ↔ word ∈ other.triggers) :
    entry.mismatches other =
      if sameChances entry.spawnTable other.spawnTable then []
      else [⟨entry.category, entry.name, .canSpawnAt, .chances entry.spawnTable,
        .chances other.spawnTable⟩] := by
  unfold mismatches derived
  rw [if_neg isCast.not_isLocation, if_neg isCast.not_isLocation]
  have words : sameWords entry.triggers other.triggers = true := sameWords_of_mem_iff triggers
  by_cases same : sameChances entry.spawnTable other.spawnTable = true
  · simp [DerivedValue.same, words, same]
  · simp [DerivedValue.same, words, same]

/-- What a comparison finds of an entry: nothing if the entry is as it should be, and otherwise a
difference of the spawn table only. -/
structure Entry.DiffersInSpawns (plain : Entry → Prop) (entry other : Entry) : Prop where
  category : entry.category = other.category
  field : ∀ mismatch ∈ entry.mismatches other, mismatch.field = .canSpawnAt
  none_iff : entry.mismatches other = [] ↔ plain entry

theorem Entry.differsInSpawns_of_isCast {plain : Entry → Prop} {entry other : Entry}
    (isCast : entry.IsCast) (category : entry.category = other.category)
    (triggers : ∀ word, word ∈ entry.triggers ↔ word ∈ other.triggers)
    (spawns : entry.spawnTable.Same other.spawnTable ↔ plain entry) :
    entry.DiffersInSpawns plain other where
  category := category
  field := fun mismatch found => by
    rw [mismatches_of_isCast isCast triggers] at found
    split at found
    · cases found
    · rw [List.mem_singleton.1 found]
  none_iff := by
    rw [mismatches_of_isCast isCast triggers, ← spawns, ← sameChances_iff]
    by_cases same : sameChances entry.spawnTable other.spawnTable = true <;> simp [same]

section Comparison

variable {plain : Entry → Prop} {given exported : List Entry}
  (each : List.Forall₂ (Entry.DiffersInSpawns plain) given exported)

include each

/-- A comparison of two lorebooks of known categories finds nothing just if it finds nothing in
each entry. -/
theorem mismatchesBetween_eq_nil_iff
    (known : ∀ entry ∈ given, entry.category ∈ [Category.location, .character, .event]) :
    mismatchesBetween given exported = [] ↔ ∀ entry ∈ given, plain entry := by
  have quiet (category : Category) :
      List.Forall₂ (fun entry other => entry.mismatches other = [] ↔ plain entry)
        (ofCategory category given) (ofCategory category exported) :=
    (forall₂_ofCategory each (fun _ _ differs => differs.category) category).imp
      fun _ _ differs => differs.none_iff
  rw [mismatchesBetween, List.flatMap_eq_nil_iff]
  constructor
  · intro none entry member
    have nothing := none entry.category (known entry member)
    rw [flatMap_zip_eq_nil_iff (quiet entry.category)] at nothing
    exact nothing entry (List.mem_filter.2 ⟨member, decide_eq_true rfl⟩)
  · intro all category _
    rw [flatMap_zip_eq_nil_iff (quiet category)]
    exact fun entry member => all entry (List.mem_filter.1 member).1

theorem field_of_mem_mismatchesBetween {mismatch : Mismatch}
    (found : mismatch ∈ mismatchesBetween given exported) : mismatch.field = .canSpawnAt := by
  obtain ⟨category, -, inside⟩ := List.mem_flatMap.1 found
  obtain ⟨⟨entry, other⟩, paired, told⟩ := List.mem_flatMap.1 inside
  have chosen := forall₂_ofCategory each (fun _ _ differs => differs.category) category
  exact (List.forall₂_zip chosen paired).field mismatch told

end Comparison

namespace Snapshot

theorem category_mem_of_mem_entries {world : Snapshot} {entry : Entry}
    (member : entry ∈ world.entries) :
    entry.category ∈ [Category.location, .character, .event] := by
  rw [entries_eq] at member
  rcases List.mem_append.1 member with places | cast
  · obtain ⟨place, -, rfl⟩ := List.mem_map.1 places
    exact List.mem_cons_self ..
  · obtain ⟨node, -, rfl⟩ := List.mem_map.1 cast
    rcases world.isCast_castEntry node with category | category <;> simp [category]

namespace ClearImport

variable {world : Snapshot} {config : Config} {last : Draft}
  (clear : world.ClearImport config last)

include clear

/-! ## Entries that come back -/

/-- A location has the same triggers and sublocations as what comes back of it. -/
theorem differsInSpawns_location {place : Node} {placed : Placement}
    (beside : world.Beside config .location .adjacent place placed) :
    (world.locationEntry place).DiffersInSpawns world.WritesPlainly
      (last.outcome.world.locationEntry (placed.node config.graph)) := by
  have valid : last.outcome.world.Valid := clear.whole.valid_snapshot
  have same : (world.locationEntry place).mismatches
      (last.outcome.world.locationEntry (placed.node config.graph)) = [] := by
    refine Entry.mismatches_of_isLocation rfl (fun word => ?_) fun name => ?_
    · rw [clear.typed.mem_triggers_locationEntry clear.valid,
        clear.whole.typed_outcome.mem_triggers_locationEntry valid, Placement.id_node,
        clear.mentions_iff .adjacent beside]
    · rw [mem_sublocationNames_locationEntry, mem_sublocationNames_locationEntry,
        (clear.samePlace beside).rooms]
  have noTable : (world.locationEntry place).spawnTable.keys = [] := rfl
  refine ⟨rfl, fun mismatch found => ?_, iff_of_true same fun key listed => ?_⟩
  · rw [same] at found
    cases found
  · rw [noTable] at listed
    cases listed

theorem differsInSpawns_character {node : Node} {placed : Placement}
    (beside : world.Beside config .character .knows node placed) :
    (world.characterEntry node).DiffersInSpawns world.WritesPlainly
      (last.outcome.world.characterEntry (placed.node config.graph)) := by
  have valid : last.outcome.world.Valid := clear.whole.valid_snapshot
  have typed : node.type = .character := (mem_nodesOf.1 beside.isNode).2
  have copyTyped : (placed.node config.graph).type = .character :=
    (mem_nodesOf.1 (clear.node_mem_nodesOf .knows beside)).2
  have own : world.castEntry node = world.characterEntry node := if_pos typed
  have copyOwn : last.outcome.world.castEntry (placed.node config.graph) =
      last.outcome.world.characterEntry (placed.node config.graph) := if_pos copyTyped
  have entry : placed.entry = world.castEntry node :=
    (List.forall₂_zip (world.forall₂_characterPlacements config) beside.place).trans own.symm
  have spawns := clear.same_spawnTable_iff (List.mem_filter.1 beside.isPlaced).1 entry
  rw [own, copyOwn] at spawns
  refine Entry.differsInSpawns_of_isCast (Or.inl rfl) rfl (fun word => ?_) spawns
  rw [clear.typed.mem_triggers_characterEntry clear.valid,
    clear.whole.typed_outcome.mem_triggers_characterEntry valid, Placement.id_node,
    clear.mentions_iff .knows beside]

theorem differsInSpawns_event {node : Node} {placed : Placement}
    (typed : node.type = .event)
    (member : placed ∈ castPlacements config world.entries.length world.items)
    (entry : placed.entry = world.eventEntry node) :
    (world.eventEntry node).DiffersInSpawns world.WritesPlainly
      (last.outcome.world.eventEntry (placed.node config.graph)) := by
  have copyTyped : (placed.node config.graph).type = .event := by
    rw [Placement.type_node, entry]
    rfl
  have own : world.castEntry node = world.eventEntry node :=
    if_neg (typed ▸ NodeType.noConfusion)
  have copyOwn : last.outcome.world.castEntry (placed.node config.graph) =
      last.outcome.world.eventEntry (placed.node config.graph) :=
    if_neg (copyTyped ▸ NodeType.noConfusion)
  have spawns := clear.same_spawnTable_iff member (entry.trans own.symm)
  rw [own, copyOwn] at spawns
  exact Entry.differsInSpawns_of_isCast (Or.inr rfl) rfl (fun _ => Iff.rfl) spawns

/-- **Only spawn tables change.** The entries of a world and those of the world that comes back
differ, one by one, in nothing but spawn tables that are not written as an export writes them. -/
theorem forall₂_differsInSpawns :
    List.Forall₂ (Entry.DiffersInSpawns world.WritesPlainly) world.entries
      last.outcome.world.entries := by
  refine List.rel_append (List.rel_append ?_ ?_) ?_
  · rw [Draft.nodesOf_location clear.whole.nodes, List.forall₂_map_left_iff, List.map_map,
      List.forall₂_map_right_iff]
    exact (clear.forall₂_beside .adjacent).imp fun _ _ => clear.differsInSpawns_location
  · rw [Draft.nodesOf_character clear.whole.nodes, List.forall₂_map_left_iff, List.map_map,
      List.forall₂_map_right_iff]
    exact (clear.forall₂_beside .knows).imp fun _ _ => clear.differsInSpawns_character
  · rw [Draft.nodesOf_event clear.whole.nodes, List.forall₂_map_left_iff, List.map_map,
      List.forall₂_map_right_iff]
    refine (forall₂_and_mem_zip (world.forall₂_eventPlacements config)).imp ?_
    rintro node placed ⟨paired, entry⟩
    obtain ⟨isNode, isPlaced⟩ := List.of_mem_zip paired
    exact clear.differsInSpawns_event (mem_nodesOf.1 isNode).2 (List.mem_filter.1 isPlaced).1 entry

end ClearImport

/-! ## Comparisons without a finding -/

/-- **What changes without a finding.** A world has been read and is valid, its edges keep to the
rules of connection, and its entries are imported without a finding. A comparison of the written
entries with those of the import then differs in spawn tables only, and it finds no mismatch just
if the keys of all spawn tables are written as an export writes them. -/
theorem compareRoundTrip_mismatches_iff {document : Json} {world : Snapshot}
    (read : Snapshot.read document = .ok world) (accepted : world.validate = .ok ())
    (typed : world.Typed) (config : Config) {outcome : Outcome}
    (imported : importEntries config world.entries = .ok outcome)
    (silent : outcome.report.findings = []) :
    ∃ mismatches,
      compareRoundTrip config (Entry.listToJson world.entries) = .ok ⟨mismatches, ⟨[]⟩⟩ ∧
        (∀ mismatch ∈ mismatches, mismatch.field = .canSpawnAt) ∧
        (mismatches = [] ↔ ∀ entry ∈ world.entries, world.WritesPlainly entry) := by
  have compared := compareRoundTrip_entries read imported
  rcases importEntries_cases config world.entries with made | ⟨failed, -⟩ | ⟨failed, -⟩
  · cases imported.symm.trans made
    have clear : world.ClearImport config (importDraft config world.entries) := {
      valid := validate_eq_ok_iff.1 accepted
      typed := typed
      whole := Draft.assembled config _ world.items []
      free := by rw [Report.collisions, silent, List.filter_nil] }
    have each := clear.forall₂_differsInSpawns
    refine ⟨_, ?_, fun mismatch => field_of_mem_mismatchesBetween each,
      mismatchesBetween_eq_nil_iff each fun _ => category_mem_of_mem_entries⟩
    rw [compared, silent]
  · cases imported.symm.trans failed
  · cases imported.symm.trans failed

/-- A forest with a cave, a hollow that goes by the same word, and Ada, who is found in the forest
and in the cave there. -/
def caveDocument : Json :=
  let node (id name type : String) (more : List (String × Json)) : Json :=
    .object ([("id", .string id), ("name", .string name), ("type", .string type)] ++ more)
  .object
    [("nodes", .array
      [node "forest" "Forest" "location" [("keywords", .ofStrings ["forest"])],
        node "den" "Cave" "sublocation" [("parent", .string "forest")],
        node "hollow" "Hollow" "location" [("keywords", .ofStrings ["cave"])],
        node "ada" "Ada" "character" [("keywords", .ofStrings ["ada"])]]),
      ("edges", .array
      [.object
        [("id", .string "e1"), ("edgeType", .string "spawn"), ("source", .string "ada"),
          ("target", .string "forest"), ("probability", .ofFloat 0.25),
          ("sublocationProbabilities", .object [("Cave", .ofFloat 0.5)])]])]

/-- The world in the document. -/
def caves : Snapshot where
  nodes :=
    [{ Node.blank ⟨"forest"⟩ "Forest" .location with
        keywords := ["forest"], contentShort := none },
      Node.blank ⟨"den"⟩ "Cave" (.sublocation ⟨"forest"⟩),
      { Node.blank ⟨"hollow"⟩ "Hollow" .location with keywords := ["cave"], contentShort := none },
      { Node.blank ⟨"ada"⟩ "Ada" (.character []) with keywords := ["ada"], contentShort := none }]
  edges := [⟨⟨"e1"⟩, ⟨"ada"⟩, ⟨"forest"⟩, .spawn 0.25 (.ofList [("Cave", 0.5)])⟩]

/-- The caves keep to all rules, and their entries are imported without a finding. -/
theorem caves_imported :
    Snapshot.read caveDocument = .ok caves ∧ caves.validate = .ok () ∧ caves.Typed ∧
      importEntries {} caves.entries = .ok (importDraft {} caves.entries).outcome ∧
      (importDraft {} caves.entries).outcome.report.findings = [] := by
  refine ⟨by decide +kernel, by decide +kernel, ?_, by decide +kernel, by decide +kernel⟩
  unfold Typed
  decide +kernel

theorem caves_mismatches_iff :
    Snapshot.read caveDocument = .ok caves ∧ caves.validate = .ok () ∧ caves.Typed ∧
      ∃ outcome, importEntries {} caves.entries = .ok outcome ∧ outcome.report.findings = [] ∧
        ∃ mismatches,
          compareRoundTrip {} (Entry.listToJson caves.entries) = .ok ⟨mismatches, ⟨[]⟩⟩ ∧
            (∀ mismatch ∈ mismatches, mismatch.field = .canSpawnAt) ∧
            (mismatches = [] ↔ ∀ entry ∈ caves.entries, caves.WritesPlainly entry) := by
  obtain ⟨read, accepted, typed, imported, silent⟩ := caves_imported
  exact ⟨read, accepted, typed, _, imported, silent,
    compareRoundTrip_mismatches_iff read accepted typed {} imported silent⟩

/-- The cave of the forest is taken for the hollow, and nothing is reported. -/
theorem caves_change_silently :
    Snapshot.read caveDocument = .ok caves ∧ caves.validate = .ok () ∧ caves.Typed ∧
      (∃ outcome, importEntries {} caves.entries = .ok outcome ∧ outcome.report.findings = []) ∧
      compareRoundTrip {} (Entry.listToJson caves.entries) =
        .ok ⟨[⟨.character, "Ada", .canSpawnAt,
          .chances (.ofList [("forest", 0.25), ("Cave", 0.5)]),
          .chances (.ofList [("forest", 0.25), ("cave", 0.5)])⟩], ⟨[]⟩⟩ := by
  obtain ⟨read, accepted, typed, imported, silent⟩ := caves_imported
  exact ⟨read, accepted, typed, ⟨_, imported, silent⟩, by decide +kernel⟩

end Snapshot

end StoryWorld

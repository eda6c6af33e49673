import StoryWorld.Proofs.Lore.SecondExport
import StoryWorld.Proofs.Lore.WrittenEntries

/-!
# Round trips

The entries of an unambiguous world can be imported, nothing is found on the way, and the world that
comes out has entries that say the same (`Snapshot.import_entries_sameRelations`). So a comparison
of the written entries with those of their import finds no mismatch.
-/

set_option autoImplicit false

namespace StoryWorld

/-! ## Comparisons -/

theorem sameWords_of_mem_iff {words others : List String}
    (same : ∀ word, word ∈ words ↔ word ∈ others) : sameWords words others = true := by
  rw [sameWords, Bool.and_eq_true, List.all_eq_true, List.all_eq_true]
  exact ⟨fun word member => decide_eq_true ((same word).1 member),
    fun word member => decide_eq_true ((same word).2 member)⟩

theorem sameChances_iff {table other : Table String Float} :
    sameChances table other = true ↔ table.Same other := by
  rw [sameChances, Bool.and_eq_true, List.all_eq_true, decide_eq_true_iff]
  constructor
  · rintro ⟨sizes, found⟩
    exact Table.same_of_entries sizes fun entry member => of_decide_eq_true (found entry member)
  · refine fun same => ⟨same.size_eq, fun entry member => decide_eq_true ?_⟩
    rw [← same entry.1]
    exact Table.get?_eq_some_iff.2 member

theorem same_getD_empty {α : Type} {table other : Option (Table String α)}
    (same : Option.Rel Table.Same table other) :
    (table.getD .empty).Same (other.getD .empty) := by
  cases same with
  | some same => exact same
  | none => exact fun _ => rfl

/-- Entries that have the same relations do not differ where they are compared. -/
theorem Entry.SameRelations.mismatches_eq_nil {entry other : Entry}
    (same : entry.SameRelations other) : entry.mismatches other = [] := by
  have triggers : sameWords entry.triggers other.triggers = true :=
    sameWords_of_mem_iff same.triggers
  have chances : sameChances entry.spawnTable other.spawnTable = true :=
    sameChances_iff.2 (same_getD_empty same.canSpawnAt)
  have sublocations : sameWords entry.sublocationNames other.sublocationNames = true :=
    sameWords_of_mem_iff fun _ => (same_getD_empty same.subLocations).mem_keys_iff
  unfold mismatches derived
  split
  · simp [DerivedValue.same, triggers, sublocations]
  · simp [DerivedValue.same, triggers, chances]

/-- Entries that are related only within a category are related category by category. -/
theorem forall₂_ofCategory {related : Entry → Entry → Prop} {given exported : List Entry}
    (each : List.Forall₂ related given exported)
    (alike : ∀ entry other, related entry other → entry.category = other.category)
    (category : Category) :
    List.Forall₂ related (ofCategory category given) (ofCategory category exported) := by
  refine List.rel_filter ?_ each
  intro entry other same
  simp only [decide_eq_true_eq, alike entry other same]

theorem mismatchesBetween_eq_nil {given exported : List Entry}
    (same : List.Forall₂ Entry.SameRelations given exported) :
    mismatchesBetween given exported = [] := by
  refine List.flatMap_eq_nil_iff.2 fun category _ => List.flatMap_eq_nil_iff.2 ?_
  rintro ⟨entry, other⟩ paired
  have chosen := forall₂_ofCategory same (fun _ _ same => same.category) category
  exact (List.forall₂_zip chosen paired).mismatches_eq_nil

/-! ## There and back -/

/-- The written entries of a world that has been read are compared with those of their import. -/
theorem Snapshot.compareRoundTrip_entries {document : Json} {world : Snapshot}
    (read : Snapshot.read document = .ok world) {config : Config} {outcome : Outcome}
    (imported : importEntries config world.entries = .ok outcome) :
    compareRoundTrip config (Entry.listToJson world.entries) =
      .ok ⟨mismatchesBetween world.entries outcome.world.entries, ⟨outcome.report.findings⟩⟩ := by
  have given : ((List.range world.entries.length).zip world.entries).map Prod.snd =
      world.entries := world.map_snd_items
  refine bind_eq_ok_iff.2 ⟨_, readEntries_listToJson (legible_of_read read).writable, ?_⟩
  simp only [given]
  exact bind_eq_ok_iff.2 ⟨_, imported, rfl⟩

/-- **Exporting, importing and exporting again.** A world that has been read and is valid, whose
edges keep to the rules of connection and whose words are unambiguous, has entries that import
without a finding. The entries of the imported world have the same relations one by one, so a
comparison finds no mismatch. -/
theorem Snapshot.import_entries_sameRelations {document : Json} {world : Snapshot}
    (read : Snapshot.read document = .ok world) (accepted : world.validate = .ok ())
    (fewNodes : world.nodes.length < ElementId.maxOrdinal)
    (fewEdges : world.edges.length < ElementId.maxOrdinal)
    (typed : world.Typed) (clear : world.Unambiguous) (config : Config) :
    ∃ outcome, importEntries config world.entries = .ok outcome ∧
      outcome.report.findings = [] ∧
      List.Forall₂ Entry.SameRelations world.entries outcome.world.entries ∧
      compareRoundTrip config (Entry.listToJson world.entries) = .ok ⟨[], ⟨[]⟩⟩ := by
  have valid : world.Valid := validate_eq_ok_iff.1 accepted
  have again := clear.reimport valid typed config
  have imported : importEntries config world.entries =
      .ok (importDraft config world.entries).outcome :=
    again.finish_eq fewNodes fewEdges
  have found : (importDraft config world.entries).outcome.report.findings = [] :=
    again.findings_eq_nil
  have same := again.forall₂_sameRelations
  refine ⟨_, imported, found, same, ?_⟩
  rw [compareRoundTrip_entries read imported, mismatchesBetween_eq_nil same, found]

/-- Two places with two ways between them, a taproom in one of them, and two travellers, one without
a keyword, who know each other in two ways. -/
def hamletDocument : Json :=
  let node (id name type : String) (keywords : List String) (more : List (String × Json)) : Json :=
    .object ([("id", .string id), ("name", .string name), ("type", .string type),
      ("keywords", .ofStrings keywords)] ++ more)
  let edge (id type source target : String) (more : List (String × Json)) : Json :=
    .object ([("id", .string id), ("edgeType", .string type), ("source", .string source),
      ("target", .string target)] ++ more)
  .object
    [("nodes", .array
      [node "mill" "Mill" "location" ["mill"] [],
        node "inn" "Inn" "location" ["Inn", "Tavern"] [],
        node "bar" "Taproom" "sublocation" [] [("parent", .string "inn")],
        node "ada" "Ada" "character" ["Ada"] [],
        node "guest" "Guest" "character" [] []]),
      ("edges", .array
      [edge "e1" "adjacent" "mill" "inn" [],
        edge "e2" "adjacent" "inn" "mill" [],
        edge "e3" "knows" "ada" "guest" [("sourceThinks", .string "quiet")],
        edge "e4" "knows" "guest" "ada" [("relationship", .string "old friends")],
        edge "e5" "spawn" "guest" "inn" [("probability", .ofFloat 0),
          ("sublocationProbabilities", .object [("Taproom", .ofFloat 0.5)])]])]

/-- The world in the document. -/
def hamlet : Snapshot :=
  let node (id name : String) (keywords : List String) (kind : NodeKind) : Node :=
    { Node.blank ⟨id⟩ name kind with keywords := keywords, contentShort := none }
  { nodes :=
      [node "mill" "Mill" ["mill"] .location,
        node "inn" "Inn" ["Inn", "Tavern"] .location,
        node "bar" "Taproom" [] (.sublocation ⟨"inn"⟩),
        node "ada" "Ada" ["Ada"] (.character []),
        node "guest" "Guest" [] (.character [])]
    edges :=
      [⟨⟨"e1"⟩, ⟨"mill"⟩, ⟨"inn"⟩, .adjacent⟩,
        ⟨⟨"e2"⟩, ⟨"inn"⟩, ⟨"mill"⟩, .adjacent⟩,
        ⟨⟨"e3"⟩, ⟨"ada"⟩, ⟨"guest"⟩, .knows "" "quiet" ""⟩,
        ⟨⟨"e4"⟩, ⟨"guest"⟩, ⟨"ada"⟩, .knows "old friends" "" ""⟩,
        ⟨⟨"e5"⟩, ⟨"guest"⟩, ⟨"inn"⟩, .spawn 0 (.ofList [("Taproom", 0.5)])⟩] }

theorem hamlet_sameRelations :
    Snapshot.read hamletDocument = .ok hamlet ∧ hamlet.validate = .ok () ∧ hamlet.Typed ∧
      hamlet.Unambiguous ∧
        ∃ outcome, importEntries {} hamlet.entries = .ok outcome ∧
          outcome.report.findings = [] ∧
          List.Forall₂ Entry.SameRelations hamlet.entries outcome.world.entries ∧
          compareRoundTrip {} (Entry.listToJson hamlet.entries) = .ok ⟨[], ⟨[]⟩⟩ := by
  have read : Snapshot.read hamletDocument = .ok hamlet := by decide +kernel
  have accepted : hamlet.validate = .ok () := by decide +kernel
  have fewNodes : hamlet.nodes.length < ElementId.maxOrdinal := by decide
  have fewEdges : hamlet.edges.length < ElementId.maxOrdinal := by decide
  have typed : hamlet.Typed := by
    unfold Snapshot.Typed
    decide +kernel
  have clear : hamlet.Unambiguous := by
    constructor <;> decide +kernel
  exact ⟨read, accepted, typed, clear,
    Snapshot.import_entries_sameRelations read accepted fewNodes fewEdges typed clear {}⟩

end StoryWorld

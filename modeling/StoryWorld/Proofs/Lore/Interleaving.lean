import StoryWorld.Proofs.Lore.Recounting

/-!
# Entries in another order

The passes of an import go through the locations, through the characters and events, and again
through the locations and the characters. Each pass skips what it is not about. So it makes no
difference how the locations of a lorebook stand among its characters and events, where entries
about nothing known come in between, or which items of a document are no entries: as long as the
locations keep their order among themselves and the characters and events keep theirs
(`SameGroups`), imports end alike. The nodes stand elsewhere on the canvas, and the findings about
what is left out differ; nothing else does (`import_interleaving`).

In particular a reference to a location that is declared further down resolves as one to a location
declared before.
-/

set_option autoImplicit false

namespace StoryWorld

/-! ## Documents -/

/-- The entries among the items of a document. -/
def readableEntries (items : List Json) : List Entry :=
  items.filterMap fun item => (Entry.read item).toOption

theorem map_snd_entriesFrom_read (items : List Json) :
    (entriesFrom 0 (items.map Entry.read)).map Prod.snd = readableEntries items := by
  rw [map_snd_entriesFrom, List.filterMap_map]
  rfl

/-- What is no entry is left out. -/
theorem isSkipped_of_mem_faultsFrom {start : Nat} {results : List (Except Json.Fault Entry)}
    {finding : Finding} (member : finding ∈ faultsFrom start results) :
    finding.isSkipped = true := by
  obtain ⟨index, reason, rfl, -⟩ := exists_of_mem_faultsFrom start results member
  rfl

/-! ## Outcomes -/

/-- Whether a finding is about an entry of unknown category. -/
def Finding.isUnknownCategory : Finding → Bool
  | .unknownCategory .. => true
  | _ => false

/-- An outcome that differs from another one at most in where the nodes stand on the canvas, and in
findings of a certain sort. -/
structure Outcome.AlikeBut (sort : Finding → Bool) (outcome other : Outcome) : Prop where
  nodes : List.Forall₂ Node.Alike outcome.world.nodes other.world.nodes
  edges : other.world.edges = outcome.world.edges
  findings : other.report.findings.filter (fun finding => !sort finding) =
    outcome.report.findings.filter fun finding => !sort finding

namespace Draft

/-- Drafts that began with findings of one sort only, and have taken the same steps since, are
finished with outcomes that differ in findings of that sort only. -/
theorem Alike.endAlike {sort : Finding → Bool} {early earlyOther : List Finding}
    {draft other : Draft} (alike : Alike early earlyOther draft other)
    (start : ∀ finding ∈ early, sort finding = true)
    (startOther : ∀ finding ∈ earlyOther, sort finding = true) :
    EndAlike (Outcome.AlikeBut sort) draft.finish other.finish := by
  obtain ⟨later, found, foundOther, kept⟩ := alike.findings
  rcases alike.finish with ⟨why, failed, failedOther⟩ | ⟨made, madeOther⟩
  · rw [failed, failedOther]
    exact .fail why
  · rw [made, madeOther]
    refine .succeed ⟨alike.nodes, alike.edges, ?_⟩
    have none (findings : List Finding) (all : ∀ finding ∈ findings, sort finding = true) :
        findings.filter (fun finding => !sort finding) = [] := by
      refine List.filter_eq_nil_iff.2 fun finding member => ?_
      simp [all finding member]
    rw [findings_outcome, findings_outcome, found, foundOther, List.filter_append,
      List.filter_append, none early start, none earlyOther startOther]

/-- What is found before the passes is about entries of unknown category. -/
theorem isUnknownCategory_of_mem {items : List (Nat × Entry)} {finding : Finding}
    (member : finding ∈ items.filterMap unknownCategory?) :
    finding.isUnknownCategory = true := by
  obtain ⟨item, -, found⟩ := List.mem_filterMap.1 member
  unfold unknownCategory? at found
  split at found
  · cases found
    rfl
  · cases found

end Draft

/-- An entry of unknown category is left out. -/
theorem Finding.isSkipped_of_isUnknownCategory (finding : Finding)
    (unknown : finding.isUnknownCategory = true) : finding.isSkipped = true := by
  cases finding with
  | unknownCategory => rfl
  | _ => cases unknown

/-! ## Interleavings -/

/-- Two lists of entries have the same locations in the same order, and the same characters and
events in the same order. -/
structure SameGroups (entries others : List Entry) : Prop where
  locations : others.filter (fun entry => decide entry.IsLocation) =
    entries.filter fun entry => decide entry.IsLocation
  cast : others.filter (fun entry => decide entry.IsCast) =
    entries.filter fun entry => decide entry.IsCast

namespace SameGroups

variable {items others : List (Nat × Entry)}
  (same : SameGroups (items.map Prod.snd) (others.map Prod.snd))

include same

theorem forall₂_locationItems :
    List.Forall₂ (fun item copy : Nat × Entry => copy.2 = item.2) (locationItems items)
      (locationItems others) := by
  refine forall₂_of_map_eq ?_
  have chosen := same.locations
  rw [List.filter_map, List.filter_map] at chosen
  exact chosen

theorem forall₂_castItems :
    List.Forall₂ (fun item copy : Nat × Entry => copy.2 = item.2) (castItems items)
      (castItems others) := by
  refine forall₂_of_map_eq ?_
  have chosen := same.cast
  rw [List.filter_map, List.filter_map] at chosen
  exact chosen

/-- Imports of the same groups end alike, whatever has been found before. -/
theorem alike_assemble (config : Config) (total totalOther : Nat)
    (findings findingsOther : List Finding) :
    Draft.Alike (findings ++ items.filterMap Draft.unknownCategory?)
      (findingsOther ++ others.filterMap Draft.unknownCategory?)
      (Draft.assemble config total items findings)
      (Draft.assemble config totalOther others findingsOther) :=
  Draft.alike_assemble_of_groups same.forall₂_locationItems same.forall₂_castItems config total
    totalOther findings findingsOther

end SameGroups

/-- **How entries are interleaved makes no difference.** Two lists of entries with the same
locations in order, and the same characters and events in order, are imported alike but for the
findings about entries of unknown category. Two documents whose readable entries are such lists are
imported alike but for the findings about what is left out. -/
theorem import_interleaving (config : Config) :
    (∀ entries others, SameGroups entries others →
      EndAlike (Outcome.AlikeBut Finding.isUnknownCategory) (importEntries config entries)
        (importEntries config others)) ∧
    ∀ document other items otherItems, lorebookItems document = .ok items →
      lorebookItems other = .ok otherItems →
      SameGroups (readableEntries items) (readableEntries otherItems) →
        EndAlike (Outcome.AlikeBut Finding.isSkipped) (importJson config document)
          (importJson config other) := by
  constructor
  · intro entries others same
    rw [← map_snd_zip_range entries, ← map_snd_zip_range others] at same
    exact (same.alike_assemble config entries.length others.length [] []).endAlike
      (fun _ => Draft.isUnknownCategory_of_mem) fun _ => Draft.isUnknownCategory_of_mem
  · intro document other items otherItems listed otherListed same
    rw [← map_snd_entriesFrom_read, ← map_snd_entriesFrom_read otherItems] at same
    rw [importJson, readEntries_of_items listed, importJson, readEntries_of_items otherListed]
    have skipped (items : List Json) : ∀ finding ∈ faultsFrom 0 (items.map Entry.read) ++
        (entriesFrom 0 (items.map Entry.read)).filterMap Draft.unknownCategory?,
          finding.isSkipped = true := by
      intro finding member
      rcases List.mem_append.1 member with faulty | unknown
      · exact isSkipped_of_mem_faultsFrom faulty
      · exact finding.isSkipped_of_isUnknownCategory (Draft.isUnknownCategory_of_mem unknown)
    exact (same.alike_assemble config items.length otherItems.length _ _).endAlike (skipped items)
      (skipped otherItems)

/-- Ada goes to a mill that comes after her, and knows Bob, who comes after that; in between are an
item that is no entry and an entry about nothing known. -/
def scatteredDocument : Json :=
  .array
    [.object [("category", .string "character"), ("name", .string "Ada"),
        ("keywords", .ofStrings ["ada"]), ("canSpawnAt", .object [("MILL", .ofFloat 0.5)]),
        ("knows", .object [("bob", .object [("relationship", .string "friends")])])],
      .boolean true,
      .object [("category", .string "location"), ("name", .string "Mill"),
        ("keywords", .ofStrings ["mill"])],
      .object [("category", .string "weather")],
      .object [("category", .string "character"), ("name", .string "Bob"),
        ("keywords", .ofStrings ["bob"])]]

/-- The mill, then Ada and Bob, then an item that is no entry. -/
def sortedDocument : Json :=
  .array
    [.object [("category", .string "location"), ("name", .string "Mill"),
        ("keywords", .ofStrings ["mill"])],
      .object [("category", .string "character"), ("name", .string "Ada"),
        ("keywords", .ofStrings ["ada"]), ("canSpawnAt", .object [("MILL", .ofFloat 0.5)]),
        ("knows", .object [("bob", .object [("relationship", .string "friends")])])],
      .object [("category", .string "character"), ("name", .string "Bob"),
        ("keywords", .ofStrings ["bob"])],
      .object [("category", .integer 5)]]

/-- The items of a document that is a list. -/
def listedItems : Json → List Json
  | .array items => items
  | _ => []

theorem scatteredDocument_interleaved :
    SameGroups (readableEntries (listedItems scatteredDocument))
        (readableEntries (listedItems sortedDocument)) ∧
      EndAlike (Outcome.AlikeBut Finding.isUnknownCategory)
        (importEntries {} (readableEntries (listedItems scatteredDocument)))
        (importEntries {} (readableEntries (listedItems sortedDocument))) ∧
      EndAlike (Outcome.AlikeBut Finding.isSkipped) (importJson {} scatteredDocument)
        (importJson {} sortedDocument) ∧
      (importJson {} scatteredDocument).map (fun outcome => outcome.world.edges) =
        .ok [⟨⟨"edge_1"⟩, ⟨"char_2"⟩, ⟨"loc_1"⟩, .spawn 0.5 .empty⟩,
          ⟨⟨"edge_2"⟩, ⟨"char_2"⟩, ⟨"char_3"⟩, .knows "friends" "" ""⟩] := by
  have same : SameGroups (readableEntries (listedItems scatteredDocument))
      (readableEntries (listedItems sortedDocument)) := by
    constructor <;> decide +kernel
  refine ⟨same, ?_, ?_, by decide +kernel⟩
  · exact (import_interleaving {}).1 _ _ same
  · exact (import_interleaving {}).2 scatteredDocument sortedDocument _ _ rfl rfl same

end StoryWorld

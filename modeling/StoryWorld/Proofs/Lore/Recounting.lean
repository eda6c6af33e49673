import StoryWorld.Lore.Comparison
import StoryWorld.Proofs.Attempts
import StoryWorld.Proofs.Lore.SideBySide

/-!
# What a comparison reports

An import gives each entry its place among all items of the lorebook. A comparison first takes out
the items that are no entries, and imports the others as a list of their own. Side by side both
end alike. So a comparison fails where an import fails, and otherwise it reports the same, except
that the place of an entry of unknown category is counted without the items that are no entries
(`compareRoundTrip_report`). A lorebook with such an item before an entry of unknown category is
reported on in two ways (`compareRoundTrip_strayed`).
-/

set_option autoImplicit false

namespace StoryWorld

namespace Finding

/-- Whether the finding is about an item before a place that is no entry. -/
def isMalformedBefore (place : Nat) : Finding → Bool
  | .malformedEntry index _ => decide (index < place)
  | _ => false

/-- The finding, with the place of an entry counted without the items that are no entries. -/
def recounted (findings : List Finding) : Finding → Finding
  | .unknownCategory index category =>
    .unknownCategory (index - findings.countP (isMalformedBefore index)) category
  | finding => finding

theorem isMalformedBefore_of_isSkipped {finding : Finding} (place : Nat)
    (kept : finding.isSkipped = false) : finding.isMalformedBefore place = false := by
  cases finding with
  | malformedEntry => cases kept
  | _ => rfl

theorem recounted_of_isSkipped {finding : Finding} (findings : List Finding)
    (kept : finding.isSkipped = false) : finding.recounted findings = finding := by
  cases finding with
  | unknownCategory => cases kept
  | _ => rfl

end Finding

/-! ## Items that are entries -/

/-- The entries among items that have been read, with their places from a first one on. -/
def entriesFrom (start : Nat) (results : List (Except Json.Fault Entry)) : List (Nat × Entry) :=
  ((List.range' start results.length).zip results).filterMap fun result =>
    result.2.toOption.map fun entry => (result.1, entry)

/-- What is found in the items that are no entries. -/
def faultsFrom (start : Nat) (results : List (Except Json.Fault Entry)) : List Finding :=
  ((List.range' start results.length).zip results).filterMap fun result =>
    match result.2 with
    | .ok _ => none
    | .error reason => some (.malformedEntry result.1 reason)

section Items

variable (start : Nat) (results : List (Except Json.Fault Entry))

theorem entriesFrom_ok (entry : Entry) :
    entriesFrom start (.ok entry :: results) = (start, entry) :: entriesFrom (start + 1) results :=
  rfl

theorem entriesFrom_error (reason : Json.Fault) :
    entriesFrom start (.error reason :: results) = entriesFrom (start + 1) results := rfl

theorem faultsFrom_ok (entry : Entry) :
    faultsFrom start (.ok entry :: results) = faultsFrom (start + 1) results := rfl

theorem faultsFrom_error (reason : Json.Fault) :
    faultsFrom start (.error reason :: results) =
      .malformedEntry start reason :: faultsFrom (start + 1) results := rfl

/-- The entries by themselves. -/
theorem map_snd_entriesFrom :
    (entriesFrom start results).map Prod.snd = results.filterMap Except.toOption := by
  induction results generalizing start with
  | nil => rfl
  | cons result rest ih =>
    cases result with
    | ok entry =>
      rw [entriesFrom_ok, List.map_cons, ih]
      rfl
    | error reason =>
      rw [entriesFrom_error, ih]
      rfl

/-- Items that are no entries are found in their places. -/
theorem exists_of_mem_faultsFrom {finding : Finding} (member : finding ∈ faultsFrom start results) :
    ∃ index reason, finding = .malformedEntry index reason ∧ start ≤ index := by
  induction results generalizing start with
  | nil => cases member
  | cons result rest ih =>
    cases result with
    | ok entry =>
      obtain ⟨index, reason, same, later⟩ := ih (start + 1) member
      exact ⟨index, reason, same, by omega⟩
    | error reason =>
      rw [faultsFrom_error] at member
      rcases List.mem_cons.1 member with rfl | member
      · exact ⟨start, reason, rfl, Nat.le_refl start⟩
      · obtain ⟨index, reason, same, later⟩ := ih (start + 1) member
        exact ⟨index, reason, same, by omega⟩

/-- No item from a place on stands before it. -/
theorem countP_faultsFrom :
    (faultsFrom start results).countP (Finding.isMalformedBefore start) = 0 := by
  refine List.countP_eq_zero.2 fun finding member => ?_
  obtain ⟨index, reason, rfl, later⟩ := exists_of_mem_faultsFrom start results member
  simpa [Finding.isMalformedBefore] using later

/-- Counted by themselves, the entries have the places that are left when the items that are no
entries are not counted. -/
theorem zip_entriesFrom (count : Nat) (early : List Finding)
    (before : ∀ place, start ≤ place →
      early.countP (Finding.isMalformedBefore place) + count = start) :
    (List.range' count (entriesFrom start results).length).zip
        ((entriesFrom start results).map Prod.snd) =
      (entriesFrom start results).map fun item =>
        (item.1 - (early ++ faultsFrom start results).countP (Finding.isMalformedBefore item.1),
          item.2) := by
  induction results generalizing start count early with
  | nil => rfl
  | cons result rest ih =>
    cases result with
    | ok entry =>
      have further := ih (start + 1) (count + 1) early fun place later => by
        rw [← before place (by omega)]
        omega
      have here : start - (early ++ faultsFrom start (.ok entry :: rest)).countP
          (Finding.isMalformedBefore start) = count := by
        rw [List.countP_append, countP_faultsFrom]
        have place := before start (Nat.le_refl start)
        omega
      rw [entriesFrom_ok, List.length_cons, List.range'_succ, List.map_cons, List.zip_cons_cons,
        further, List.map_cons, here, faultsFrom_ok]
    | error reason =>
      have further := ih (start + 1) count (early ++ [.malformedEntry start reason])
        fun place later => by
          have counted : Finding.isMalformedBefore place (.malformedEntry start reason) = true :=
            decide_eq_true (by omega)
          rw [List.countP_append, List.countP_singleton, if_pos counted,
            ← before place (by omega)]
          omega
      rw [entriesFrom_error, faultsFrom_error, further, List.append_assoc]
      rfl

end Items

/-- What is found in the entries of a lorebook by themselves is what is found in the lorebook, with
the places recounted. -/
theorem filterMap_unknownCategory?_entriesFrom (results : List (Except Json.Fault Entry)) :
    ((List.range (entriesFrom 0 results).length).zip
        ((entriesFrom 0 results).map Prod.snd)).filterMap Draft.unknownCategory? =
      ((entriesFrom 0 results).filterMap Draft.unknownCategory?).map
        (Finding.recounted (faultsFrom 0 results)) := by
  rw [List.range_eq_range', zip_entriesFrom 0 results 0 [] fun _ _ => rfl, List.filterMap_map,
    List.map_filterMap]
  congr 1
  funext item
  simp only [Function.comp_apply, Draft.unknownCategory?, List.nil_append]
  split <;> rfl

/-! ## Reports -/

/-- The items of a document are read one by one. -/
theorem readEntries_of_items {document : Json} {items : List Json}
    (listed : lorebookItems document = .ok items) :
    readEntries document =
      .ok ⟨entriesFrom 0 (items.map Entry.read), items.length,
        faultsFrom 0 (items.map Entry.read)⟩ := by
  rw [readEntries, listed, entriesFrom, faultsFrom, List.length_map, ← List.range_eq_range']
  rfl

theorem readEntries_eq {document : Json} {parsed : ReadEntries}
    (read : readEntries document = .ok parsed) :
    ∃ results, parsed.items = entriesFrom 0 results ∧ parsed.findings = faultsFrom 0 results := by
  obtain ⟨items, listed, -⟩ := bind_eq_ok_iff.1 read
  cases read.symm.trans (readEntries_of_items listed)
  exact ⟨items.map Entry.read, rfl, rfl⟩

/-- Only items that are no entries count. -/
theorem Finding.recounted_append {findings more : List Finding}
    (entries : ∀ finding ∈ more, ∀ place, finding.isMalformedBefore place = false) :
    recounted (findings ++ more) = recounted findings := by
  have none : ∀ place, more.countP (isMalformedBefore place) = 0 := by
    intro place
    refine List.countP_eq_zero.2 fun finding member => ?_
    simp [entries finding member place]
  funext finding
  cases finding with
  | unknownCategory => simp [recounted, none]
  | _ => rfl

/-- Recounting changes nothing exactly when no item that is no entry stands before an entry of
unknown category. -/
theorem Finding.map_recounted_eq_self_iff {findings : List Finding} :
    findings.map (recounted findings) = findings ↔
      ∀ first reason, .malformedEntry first reason ∈ findings →
        ∀ second category, .unknownCategory second category ∈ findings → second ≤ first := by
  have pointwise : findings.map (recounted findings) = findings ↔
      ∀ finding ∈ findings, finding.recounted findings = finding := by
    rw [← List.map_inj_left, List.map_id']
  rw [pointwise]
  constructor
  · intro same first reason faulty second category unknown
    have place : second - findings.countP (isMalformedBefore second) = second :=
      (Finding.unknownCategory.inj (same _ unknown)).1
    by_contra before
    have counted : 0 < findings.countP (isMalformedBefore second) :=
      List.countP_pos_iff.2 ⟨_, faulty, decide_eq_true (Nat.lt_of_not_le before)⟩
    omega
  · intro after finding member
    cases finding with
    | unknownCategory second category =>
      have none : findings.countP (isMalformedBefore second) = 0 := by
        refine List.countP_eq_zero.2 fun other inside => ?_
        cases other with
        | malformedEntry first reason =>
          simpa [isMalformedBefore] using after first reason inside second category member
        | _ => simp [isMalformedBefore]
      rw [recounted, none, Nat.sub_zero]
    | _ => rfl

section Whole

variable (config : Config) (total : Nat) (results : List (Except Json.Fault Entry))

/-- The import of items that have been read, some of which are no entries. -/
def wholeDraft : Draft :=
  .assemble config total (entriesFrom 0 results) (faultsFrom 0 results)

/-- The import of the entries by themselves. -/
def entriesDraft : Draft := importDraft config ((entriesFrom 0 results).map Prod.snd)

theorem alike_entriesDraft :
    Draft.Alike
      (faultsFrom 0 results ++ (entriesFrom 0 results).filterMap Draft.unknownCategory?)
      (((entriesFrom 0 results).filterMap Draft.unknownCategory?).map
        (Finding.recounted (faultsFrom 0 results)))
      (wholeDraft config total results) (entriesDraft config results) := by
  rw [← filterMap_unknownCategory?_entriesFrom]
  have numbered := zip_entriesFrom 0 results 0 [] fun _ _ => rfl
  rw [← List.range_eq_range'] at numbered
  have each : List.Forall₂ (fun item copy : Nat × Entry => copy.2 = item.2) (entriesFrom 0 results)
      ((List.range (entriesFrom 0 results).length).zip
        ((entriesFrom 0 results).map Prod.snd)) := by
    rw [numbered]
    exact List.forall₂_map_right_iff.2 (List.forall₂_same.2 fun _ _ => rfl)
  rw [entriesDraft, importDraft, List.length_map]
  exact Draft.alike_assemble each config total _ (faultsFrom 0 results) []

/-- The findings of the two imports, with those about the items that are no entries. -/
theorem faultsFrom_append_findings :
    faultsFrom 0 results ++ (entriesDraft config results).findings =
      (wholeDraft config total results).findings.map
        (Finding.recounted (wholeDraft config total results).findings) := by
  obtain ⟨later, found, foundAlone, kept⟩ := (alike_entriesDraft config total results).findings
  have unknown : ∀ finding ∈ (entriesFrom 0 results).filterMap Draft.unknownCategory?, ∀ place,
      finding.isMalformedBefore place = false := by
    intro finding member place
    obtain ⟨item, -, same⟩ := List.mem_filterMap.1 member
    unfold Draft.unknownCategory? at same
    split at same
    · cases same
      rfl
    · cases same
  have count : Finding.recounted (wholeDraft config total results).findings =
      Finding.recounted (faultsFrom 0 results) := by
    rw [found, Finding.recounted_append, Finding.recounted_append unknown]
    intro finding member place
    exact Finding.isMalformedBefore_of_isSkipped place (kept finding member)
  have faults : (faultsFrom 0 results).map (Finding.recounted (faultsFrom 0 results)) =
      faultsFrom 0 results := by
    refine (List.map_congr_left fun finding member => ?_).trans (List.map_id _)
    obtain ⟨index, reason, rfl, -⟩ := exists_of_mem_faultsFrom 0 results member
    rfl
  have rest : later.map (Finding.recounted (faultsFrom 0 results)) = later := by
    refine (List.map_congr_left fun finding member => ?_).trans (List.map_id _)
    exact Finding.recounted_of_isSkipped _ (kept finding member)
  rw [count, found, foundAlone, List.map_append, List.map_append, faults, rest, List.append_assoc]

end Whole

/-- **What a comparison reports.** A comparison fails as the import does. Otherwise it reports what
the import reports, but counts the place of an entry of unknown category without the items that are
no entries. So the two report the same exactly when no such item stands before an entry of unknown
category. -/
theorem compareRoundTrip_report (config : Config) (document : Json) :
    (∃ why, importJson config document = .error why ∧
      compareRoundTrip config document = .error why) ∨
    ∃ outcome comparison,
      importJson config document = .ok outcome ∧
      compareRoundTrip config document = .ok comparison ∧
      comparison.report.findings =
        outcome.report.findings.map (Finding.recounted outcome.report.findings) ∧
      (comparison.report = outcome.report ↔
        ∀ first reason, .malformedEntry first reason ∈ outcome.report.findings →
          ∀ second category, .unknownCategory second category ∈ outcome.report.findings →
            second ≤ first) := by
  cases read : readEntries document with
  | error why =>
    refine Or.inl ⟨why, ?_, ?_⟩
    · rw [importJson, read]
      rfl
    · rw [compareRoundTrip, read]
      rfl
  | ok parsed =>
    obtain ⟨results, items, faults⟩ := readEntries_eq read
    have whole : importJson config document = (wholeDraft config parsed.total results).finish := by
      rw [importJson, read, wholeDraft, ← items, ← faults]
      rfl
    have alone : compareRoundTrip config document =
        (entriesDraft config results).finish.bind fun outcome =>
          .ok ⟨mismatchesBetween (parsed.items.map Prod.snd) outcome.world.entries,
            ⟨parsed.findings ++ outcome.report.findings⟩⟩ := by
      rw [compareRoundTrip, read, entriesDraft, ← items]
      rfl
    rcases (alike_entriesDraft config parsed.total results).finish with
      ⟨why, failed, failedAlone⟩ | ⟨made, madeAlone⟩
    · refine Or.inl ⟨why, whole.trans failed, ?_⟩
      rw [alone, failedAlone]
      rfl
    · have same := faultsFrom_append_findings config parsed.total results
      rw [← faults] at same
      have compared : compareRoundTrip config document =
          .ok ⟨mismatchesBetween (parsed.items.map Prod.snd)
              (entriesDraft config results).outcome.world.entries,
            ⟨parsed.findings ++ (entriesDraft config results).findings⟩⟩ := by
        rw [alone, madeAlone]
        rfl
      refine Or.inr ⟨_, _, whole.trans made, compared, same, ?_⟩
      rw [← Finding.map_recounted_eq_self_iff, Draft.findings_outcome, ← same]
      constructor
      · intro equal
        exact congrArg Report.findings equal
      · intro equal
        exact congrArg Report.mk equal

/-- An item that is no entry, and an entry of unknown category after it. -/
def strayedDocument : Json :=
  .array
    [.object [("category", .string "location"), ("keywords", .string "x")],
      .object [("category", .string "faction")]]

/-- In the import the entry of unknown category has its own place; in the comparison it has the
place of the item before. -/
theorem compareRoundTrip_strayed :
    ∃ fault, importJson {} strayedDocument =
        .ok ⟨.empty, ⟨[.malformedEntry 0 fault, .unknownCategory 1 "faction"]⟩⟩ ∧
      compareRoundTrip {} strayedDocument =
        .ok ⟨[], ⟨[.malformedEntry 0 fault, .unknownCategory 0 "faction"]⟩⟩ :=
  ⟨.unexpected (.string "x") "a sequence", by decide +kernel, by decide +kernel⟩

end StoryWorld

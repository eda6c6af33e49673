import Mathlib.Data.List.Forall2

/-!
# Chained attempts

A computation in `Except` gives a result when each of its steps does. The lemmas take such a chain
apart. Two computations can be compared by how they end (`EndAlike`).
-/

set_option autoImplicit false

namespace StoryWorld

variable {ε α β : Type}

/-- Two steps give a result when the first gives one from which the second gives it. -/
theorem bind_eq_ok_iff {first : Except ε α} {next : α → Except ε β} {result : β} :
    (first >>= next) = .ok result ↔ ∃ value, first = .ok value ∧ next value = .ok result := by
  cases first with
  | error fault =>
    constructor
    · intro found
      cases found
    · rintro ⟨value, found, -⟩
      cases found
  | ok value =>
    constructor
    · exact fun found => ⟨value, rfl, found⟩
    · rintro ⟨other, same, found⟩
      cases same
      exact found

theorem pure_eq_ok_iff {value result : α} :
    (pure value : Except ε α) = .ok result ↔ value = result :=
  ⟨fun found => Except.ok.inj found, fun same => congrArg Except.ok same⟩

theorem map_eq_ok_iff {f : α → β} {attempt : Except ε α} {result : β} :
    attempt.map f = .ok result ↔ ∃ value, attempt = .ok value ∧ f value = result := by
  cases attempt with
  | error fault =>
    constructor
    · intro found
      cases found
    · rintro ⟨value, found, -⟩
      cases found
  | ok value =>
    constructor
    · exact fun found => ⟨value, rfl, Except.ok.inj found⟩
    · rintro ⟨other, same, rfl⟩
      cases same
      rfl

/-- The steps over a list give results when each of them gives its own. -/
theorem mapM_eq_ok_iff {step : α → Except ε β} {items : List α} {results : List β} :
    items.mapM step = .ok results ↔
      List.Forall₂ (fun item result => step item = .ok result) items results := by
  induction items generalizing results with
  | nil =>
    rw [List.mapM_nil, pure_eq_ok_iff, List.forall₂_nil_left_iff]
    exact eq_comm
  | cons item rest ih =>
    simp only [List.mapM_cons, bind_eq_ok_iff, pure_eq_ok_iff, List.forall₂_cons_left_iff, ih]
    constructor
    · rintro ⟨result, here, others, later, rfl⟩
      exact ⟨result, others, here, later, rfl⟩
    · rintro ⟨result, others, here, later, rfl⟩
      exact ⟨result, here, others, later, rfl⟩

/-- The checks over a list succeed when each of them does. -/
theorem forM_eq_ok_iff {check : α → Except ε PUnit} {items : List α} :
    items.forM check = .ok () ↔ ∀ item ∈ items, check item = .ok () := by
  induction items with
  | nil => exact ⟨fun _ _ member => (List.not_mem_nil member).elim, fun _ => rfl⟩
  | cons item rest ih =>
    rw [List.forM, bind_eq_ok_iff, List.forall_mem_cons, ← ih]
    constructor
    · rintro ⟨⟨⟩, here, later⟩
      exact ⟨here, later⟩
    · rintro ⟨here, later⟩
      exact ⟨(), here, later⟩

/-- Two attempts come to the same, reasons for failing apart, when they give the same results. -/
theorem toOption_eq_iff {first second : Except ε α} :
    first.toOption = second.toOption ↔ ∀ result, first = .ok result ↔ second = .ok result := by
  have given : ∀ (attempt : Except ε α) (result : α),
      attempt.toOption = some result ↔ attempt = .ok result := by
    intro attempt result
    cases attempt with
    | error fault => simp [Except.toOption]
    | ok value => simp [Except.toOption]
  simp only [Option.ext_iff, given]

/-- Two attempts end alike: both fail for the same reason, or both give results and these are
related. -/
inductive EndAlike (related : α → β → Prop) : Except ε α → Except ε β → Prop where
  | fail (why : ε) : EndAlike related (.error why) (.error why)
  | succeed {result : α} {other : β} (same : related result other) :
    EndAlike related (.ok result) (.ok other)

end StoryWorld

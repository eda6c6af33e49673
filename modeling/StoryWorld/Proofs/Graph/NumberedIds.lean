import Mathlib.Data.List.TakeWhile
import StoryWorld.Graph.Identity
import StoryWorld.Proofs.Decimal.Numerals

/-!
# Reading numbered identities

An identity that is given out consists of a stem, an underscore and an ordinal in decimal digits.
Scope and ordinal are read off the text of an identity, whoever made it. Which texts have an ordinal
is said by their form (`Shows`, `ordinal_eq_some_iff`), and so is which of them belong to the edges
(`scope_eq_edge_iff`).

The identities that are given out have one of these forms, because neither digits nor stems contain
an underscore: their ordinal is found again (`ordinal_numbered`), and so is their scope, because only
the stem of edges is a start of `edge_` (`scope_numbered`). Two different ordinals, or two different
kinds, never give the same identity (`numbered_inj`).
-/

set_option autoImplicit false

namespace StoryWorld

/-! ## Cut texts -/

namespace Text

/-- A text is a counter if it consists of digits, with or without a plus sign before them. -/
theorem counter?_eq_some_iff {limit n : Nat} {text : List Char} :
    counter? limit text = some n ↔
      ∃ sign digits, (sign = [] ∨ sign = ['+']) ∧ text = sign ++ digits ∧ digits ≠ [] ∧
        (∀ c ∈ digits, c.isDigit = true) ∧ decimalValue digits = n ∧ n ≤ limit := by
  have read {digits : List Char} :
      (if digits ≠ [] ∧ digits.all Char.isDigit = true ∧ decimalValue digits ≤ limit then
        some (decimalValue digits) else none) = some n ↔
        digits ≠ [] ∧ (∀ c ∈ digits, c.isDigit = true) ∧ decimalValue digits = n ∧ n ≤ limit := by
    rw [Option.ite_none_right_eq_some, List.all_eq_true, Option.some.injEq]
    constructor
    · rintro ⟨⟨written, digital, within⟩, rfl⟩
      exact ⟨written, digital, rfl, within⟩
    · rintro ⟨written, digital, rfl, within⟩
      exact ⟨⟨written, digital, within⟩, rfl⟩
  unfold counter?
  dsimp only
  rw [read]
  constructor
  · split
    · rename_i digits
      exact fun counter => ⟨['+'], digits, Or.inr rfl, rfl, counter⟩
    · exact fun counter => ⟨[], text, Or.inl rfl, rfl, counter⟩
  · rintro ⟨sign, digits, rfl | rfl, rfl, counter⟩
    · split
      · -- A plus sign is no digit.
        exact absurd (counter.2.1 '+' (List.mem_cons_self ..)) (by decide)
      · exact counter
    · exact counter

/-- A text is cut at a character that does not occur later. -/
theorem splitAtLast?_append {mark : Char} {before after : List Char} (absent : mark ∉ after) :
    splitAtLast? mark (before ++ mark :: after) = some (before, after) := by
  have passes : ∀ c ∈ after.reverse, decide (c ≠ mark) = true := by
    intro c member
    have inside : c ∈ after := List.mem_reverse.1 member
    simpa using fun same : c = mark => absent (same ▸ inside)
  have text : (before ++ mark :: after).reverse = after.reverse ++ mark :: before.reverse := by
    simp
  unfold splitAtLast?
  rw [text, List.dropWhile_append_of_pos passes, List.takeWhile_append_of_pos passes]
  simp

/-- Where a text is cut there is the character, and it does not occur later. -/
theorem splitAtLast?_eq_some_iff {mark : Char} {text before after : List Char} :
    splitAtLast? mark text = some (before, after) ↔
      text = before ++ mark :: after ∧ mark ∉ after := by
  refine ⟨fun found => ?_, fun ⟨shape, absent⟩ => shape ▸ splitAtLast?_append absent⟩
  by_cases inside : mark ∈ text
  · obtain ⟨behind, front, shape, absent⟩ :=
      List.eq_append_cons_of_mem (List.mem_reverse.2 inside)
    have cut : text = front.reverse ++ mark :: behind.reverse := by
      simpa using congrArg List.reverse shape
    have absent : mark ∉ behind.reverse := fun member => absent (List.mem_reverse.1 member)
    rw [cut, splitAtLast?_append absent] at found
    cases found
    exact ⟨cut, absent⟩
  · have passed : text.reverse.dropWhile (· ≠ mark) = [] :=
      List.dropWhile_eq_nil_iff.2 fun c member =>
        decide_eq_true fun same : c = mark => inside (same ▸ List.mem_reverse.1 member)
    rw [splitAtLast?, passed] at found
    cases found

end Text

/-! ## Stems -/

theorem IdKind.stem_ne_nil (kind : IdKind) : kind.stem.toList ≠ [] := by
  cases kind with
  | node type => cases type <;> decide
  | edge => decide

/-- Kinds have different stems. -/
theorem IdKind.stem_inj {kind other : IdKind} (same : kind.stem = other.stem) : kind = other := by
  revert same
  cases kind with
  | node type =>
    cases other with
    | node type' => cases type <;> cases type' <;> decide
    | edge => cases type <;> decide
  | edge =>
    cases other with
    | node type => cases type <;> decide
    | edge => decide

namespace ElementId

theorem toList_numbered (kind : IdKind) (n : Nat) :
    (numbered kind n).text.toList = kind.stem.toList ++ '_' :: Decimal.digitsOf n := by
  simp [numbered]

theorem splitAtLast?_numbered (kind : IdKind) (n : Nat) :
    Text.splitAtLast? '_' (numbered kind n).text.toList =
      some (kind.stem.toList, Decimal.digitsOf n) := by
  rw [toList_numbered]
  exact Text.splitAtLast?_append (Decimal.underscore_not_mem_digitsOf n)

/-- The text shows an ordinal: it ends with digits that write it, with or without a plus sign before
them, behind an underscore that something precedes. -/
inductive Shows (id : ElementId) (n : Nat) : Prop where
  | written (stem sign digits : List Char)
      (text : id.text.toList = stem ++ '_' :: (sign ++ digits)) (stemmed : stem ≠ [])
      (signed : sign = [] ∨ sign = ['+']) (written : digits ≠ [])
      (digital : ∀ c ∈ digits, c.isDigit = true) (value : Text.decimalValue digits = n)
      (within : n ≤ maxOrdinal)

/-- **A text has an ordinal exactly if it shows it.** -/
theorem ordinal_eq_some_iff {id : ElementId} {n : Nat} : id.ordinal = some n ↔ id.Shows n := by
  unfold ordinal
  constructor
  · intro reads
    split at reads
    · rename_i c stem rest cut
      obtain ⟨text, -⟩ := Text.splitAtLast?_eq_some_iff.1 cut
      obtain ⟨sign, digits, signed, rfl, written, digital, value, within⟩ :=
        Text.counter?_eq_some_iff.1 reads
      exact .written _ sign digits text (List.cons_ne_nil c stem) signed written digital value
        within
    · cases reads
  · rintro ⟨stem, sign, digits, text, stemmed, signed, written, digital, value, within⟩
    have absent : '_' ∉ sign ++ digits := by
      have apart : '_' ∉ digits := Decimal.not_mem_of_isDigit digital (by decide)
      rcases signed with rfl | rfl <;> simpa using apart
    rw [Text.splitAtLast?_eq_some_iff.2 ⟨text, absent⟩]
    cases stem with
    | nil => exact absurd rfl stemmed
    | cons c stem =>
      exact Text.counter?_eq_some_iff.2
        ⟨sign, digits, signed, rfl, written, digital, value, within⟩

/-- An identity belongs to the edges exactly if its text starts like those of edges. -/
theorem scope_eq_edge_iff {id : ElementId} :
    id.scope = .edge ↔ ∃ rest, id.text.toList = "edge_".toList ++ rest := by
  have started : (Text.afterStart? ['e', 'd', 'g', 'e', '_'] id.text.toList).isSome = true ↔
      ∃ rest, id.text.toList = "edge_".toList ++ rest := by
    rw [Option.isSome_iff_exists]
    refine exists_congr fun rest => ⟨Text.eq_append_of_afterStart?, fun text => ?_⟩
    rw [text]
    exact Text.afterStart?_append _ rest
  rw [← started, scope]
  split
  · rename_i starts
    exact iff_of_true rfl starts
  · rename_i other
    exact iff_of_false IdScope.noConfusion other

/-- The ordinal of an identity that is given out is the one it is given out with. -/
theorem ordinal_numbered (kind : IdKind) {n : Nat} (within : n ≤ maxOrdinal) :
    (numbered kind n).ordinal = some n :=
  ordinal_eq_some_iff.2 (.written kind.stem.toList [] (Decimal.digitsOf n) (toList_numbered kind n)
    kind.stem_ne_nil (Or.inl rfl) (Decimal.digitsOf_ne_nil n)
    (fun _ member => Decimal.isDigit_of_mem_digitsOf member) (Decimal.decimalValue_digitsOf n)
    within)

/-- The scope of an identity that is given out is that of its kind. -/
theorem scope_numbered (kind : IdKind) (n : Nat) : (numbered kind n).scope = kind.scope := by
  unfold scope
  rw [toList_numbered]
  cases kind with
  | node type => cases type <;> rfl
  | edge => cases digits : Decimal.digitsOf n <;> rfl

/-- An identity determines the kind and the ordinal that it is given out with. -/
theorem numbered_inj {kind other : IdKind} {n m : Nat}
    (same : numbered kind n = numbered other m) : kind = other ∧ n = m := by
  have cuts : some (kind.stem.toList, Decimal.digitsOf n) =
      some (other.stem.toList, Decimal.digitsOf m) := by
    rw [← splitAtLast?_numbered, ← splitAtLast?_numbered, same]
  obtain ⟨stems, digits⟩ := Prod.mk.inj (Option.some.inj cuts)
  refine ⟨IdKind.stem_inj (String.toList_inj.1 stems), ?_⟩
  rw [← Decimal.decimalValue_digitsOf n, digits, Decimal.decimalValue_digitsOf]

end ElementId

end StoryWorld

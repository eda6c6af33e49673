import Mathlib.Data.List.DropRight
import StoryWorld.Text.Blank

/-!
# What trimming leaves

Trimming takes the blanks off both ends of a text and stops at the first character that is not
blank. What is left is determined by this: blanks stand before and after it, and it neither begins
nor ends with one (`trimsTo_iff_eq`). So nothing is left of a text just if it is blank
(`trim_eq_nil_iff`), and trimming again changes nothing (`trimmed_trimmed`).
-/

set_option autoImplicit false

namespace StoryWorld

namespace Text

/-! ## Blanks that are trimmed -/

/-- A text of blanks only. -/
def Blank (text : List Char) : Prop := ∀ c ∈ text, isBlank c = true

instance (text : List Char) : Decidable (Blank text) :=
  decidable_of_iff (text.all isBlank = true) List.all_eq_true

theorem Blank.append {front back : List Char} (first : Blank front) (second : Blank back) :
    Blank (front ++ back) := by
  intro c member
  rcases List.mem_append.1 member with inside | inside
  · exact first c inside
  · exact second c inside

theorem trimStart_blank_append {blank : List Char} (blanks : Blank blank) (rest : List Char) :
    trimStart (blank ++ rest) = trimStart rest :=
  List.dropWhile_append_of_pos blanks

theorem trimStart_blank_cons {blank : List Char} (blanks : Blank blank) {c : Char}
    (written : isBlank c = false) (rest : List Char) :
    trimStart (blank ++ c :: rest) = c :: rest := by
  rw [trimStart_blank_append blanks]
  exact List.dropWhile_cons_of_neg (by simp [written])

/-- What is trimmed from the start of a text is blank. -/
theorem exists_blank_trimStart (text : List Char) :
    ∃ blank, Blank blank ∧ text = blank ++ trimStart text :=
  ⟨text.takeWhile isBlank, List.all_eq_true.1 List.all_takeWhile, (trimStart_append text).symm⟩

theorem trimEnd_concat_blank {c : Char} (written : isBlank c = false) (front : List Char)
    {blank : List Char} (blanks : Blank blank) :
    trimEnd (front ++ c :: blank) = front ++ [c] := by
  have back : Blank blank.reverse := fun d member => blanks d (List.mem_reverse.1 member)
  have turned : (front ++ c :: blank).reverse = blank.reverse ++ c :: front.reverse := by simp
  have trimmed := trimStart_blank_cons back written front.reverse
  rw [trimStart] at trimmed
  rw [trimEnd, turned, trimmed, List.reverse_cons, List.reverse_reverse]

/-- What is trimmed from the end of a text is blank. -/
theorem exists_trimEnd_blank (text : List Char) :
    ∃ blank, Blank blank ∧ text = trimEnd text ++ blank := by
  obtain ⟨blank, blanks, whole⟩ := exists_blank_trimStart text.reverse
  refine ⟨blank.reverse, fun c member => blanks c (List.mem_reverse.1 member), ?_⟩
  rw [trimEnd, ← trimStart, ← List.reverse_append, ← whole, List.reverse_reverse]

/-! ## What is left -/

/-- A text is another one without the blanks at its ends. -/
structure TrimsTo (text core : List Char) : Prop where
  blanks : ∃ before after, Blank before ∧ Blank after ∧ text = before ++ (core ++ after)
  first : ∀ c ∈ core.head?, isBlank c = false
  last : ∀ c ∈ core.getLast?, isBlank c = false

/-- A text that has been trimmed does not begin with a blank. -/
theorem head?_trim (text : List Char) : ∀ c ∈ (trim text).head?, isBlank c = false := by
  intro c first
  obtain ⟨rest, whole⟩ : trim text <+: trimStart text := List.rdropWhile_prefix isBlank _
  refine head?_trimStart text c ?_
  rw [← whole, List.head?_append, first]
  rfl

theorem trimsTo_trim (text : List Char) : TrimsTo text (trim text) where
  blanks := by
    obtain ⟨before, isBefore, whole⟩ := exists_blank_trimStart text
    obtain ⟨after, isAfter, core⟩ := exists_trimEnd_blank (trimStart text)
    exact ⟨before, after, isBefore, isAfter, whole.trans (congrArg (before ++ ·) core)⟩
  first := head?_trim text
  last := getLast?_trimEnd (trimStart text)

/-- There is only one text that is left. -/
theorem TrimsTo.eq_trim {text core : List Char} (trims : TrimsTo text core) : core = trim text := by
  obtain ⟨before, after, isBefore, isAfter, rfl⟩ := trims.blanks
  rw [trim, trimStart_blank_append isBefore]
  rcases List.eq_nil_or_concat' core with rfl | ⟨front, c, rfl⟩
  · have nothing : trimStart after = [] := List.dropWhile_eq_nil_iff.2 isAfter
    rw [List.nil_append, nothing]
    rfl
  · have written : isBlank c = false := trims.last c (by simp)
    have begins : ∀ d ∈ (front ++ [c] ++ after).head?, isBlank d = false := by
      rw [List.head?_append_of_ne_nil _ (by simp)]
      exact trims.first
    rw [trimStart_eq_self begins, List.append_assoc, List.singleton_append,
      trimEnd_concat_blank written front isAfter]

/-- What trimming leaves is the text without the blanks at its ends. -/
theorem trimsTo_iff_eq {text core : List Char} : TrimsTo text core ↔ core = trim text :=
  ⟨TrimsTo.eq_trim, fun same => same ▸ trimsTo_trim text⟩

/-- Nothing is left of a text just if it is blank. -/
theorem trim_eq_nil_iff {text : List Char} : trim text = [] ↔ Blank text := by
  constructor
  · intro nothing
    obtain ⟨before, after, isBefore, isAfter, whole⟩ := (trimsTo_trim text).blanks
    rw [nothing, List.nil_append] at whole
    exact whole ▸ isBefore.append isAfter
  · intro blank
    have trims : TrimsTo text [] :=
      ⟨⟨text, [], blank, fun _ member => absurd member List.not_mem_nil, by simp⟩, nofun, nofun⟩
    exact trims.eq_trim.symm

theorem trim_trim (text : List Char) : trim (trim text) = trim text := by
  have nothing : Blank [] := fun _ member => absurd member List.not_mem_nil
  have trims : TrimsTo (trim text) (trim text) :=
    ⟨⟨[], [], nothing, nothing, by simp⟩, (trimsTo_trim text).first, (trimsTo_trim text).last⟩
  exact trims.eq_trim.symm

/-- Trimming twice is trimming once. -/
theorem trimmed_trimmed (text : String) : trimmed (trimmed text) = trimmed text := by
  rw [trimmed, trimmed, String.toList_ofList, trim_trim]

end Text

end StoryWorld

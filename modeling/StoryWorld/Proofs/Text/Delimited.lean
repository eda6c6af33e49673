import Mathlib.Data.List.Basic
import Mathlib.Logic.Function.Basic

/-!
# Texts that show where they end

What is written one after the other can be told apart again if each part shows where it ends, so
that nothing that follows is taken for a piece of it (`SelfDelimiting`). Parts do so if they can be
read off the start of a text, or if they end with a character that does not occur before. Pairs of
such parts, and rows of them before a mark that none of them begins with, do so again; and a row of
such parts is told by its text, whether they follow each other directly or with separators in
between (`SelfDelimiting.intercalate_injective`).
-/

set_option autoImplicit false

namespace StoryWorld.Text

/-! ## Cuts -/

section Cuts

variable {mark : Char} {before after text : List Char}

/-- What stands before the first occurrence of a character, or everything. -/
def beforeFirst (mark : Char) (text : List Char) : List Char := text.takeWhile (· ≠ mark)

/-- What follows the first occurrence of a character, if there is one. -/
def afterFirst (mark : Char) (text : List Char) : List Char := (text.dropWhile (· ≠ mark)).drop 1

theorem ne_of_not_mem (absent : mark ∉ before) :
    ∀ c ∈ before, decide (c ≠ mark) = true := by
  intro c member
  exact decide_eq_true fun same : c = mark => absent (same ▸ member)

theorem beforeFirst_append (absent : mark ∉ before) :
    beforeFirst mark (before ++ mark :: after) = before := by
  rw [beforeFirst, List.takeWhile_append_of_pos (ne_of_not_mem absent)]
  simp

theorem afterFirst_append (absent : mark ∉ before) :
    afterFirst mark (before ++ mark :: after) = after := by
  rw [afterFirst, List.dropWhile_append_of_pos (ne_of_not_mem absent)]
  simp

theorem beforeFirst_of_not_mem (absent : mark ∉ text) : beforeFirst mark text = text := by
  rw [← List.append_nil text, beforeFirst, List.takeWhile_append_of_pos (ne_of_not_mem absent)]
  rfl

theorem afterFirst_of_not_mem (absent : mark ∉ text) : afterFirst mark text = [] := by
  rw [← List.append_nil text, afterFirst, List.dropWhile_append_of_pos (ne_of_not_mem absent)]
  rfl

end Cuts

/-! ## Parts -/

variable {α β : Type}

/-- Whatever follows, the parts that are written are told from it. -/
def SelfDelimiting (write : α → List Char) : Prop :=
  ∀ ⦃a b : α⦄ ⦃rest others : List Char⦄, write a ++ rest = write b ++ others → a = b ∧ rest = others

variable {write : α → List Char}

theorem SelfDelimiting.of_read (read : List Char → Option (α × List Char))
    (reads : ∀ a rest, read (write a ++ rest) = some (a, rest)) : SelfDelimiting write := by
  intro a b rest others same
  have both := congrArg read same
  rw [reads, reads] at both
  exact Prod.mk.inj (Option.some.inj both)

/-- A part that ends with a character that does not occur before. -/
theorem SelfDelimiting.of_mark {mark : Char} (distinct : Function.Injective write)
    (absent : ∀ a, mark ∉ write a) : SelfDelimiting fun a => write a ++ [mark] := by
  intro a b rest others same
  simp only [List.append_assoc, List.singleton_append] at same
  have front := congrArg (beforeFirst mark) same
  have back := congrArg (afterFirst mark) same
  rw [beforeFirst_append (absent a), beforeFirst_append (absent b)] at front
  rw [afterFirst_append (absent a), afterFirst_append (absent b)] at back
  exact ⟨distinct front, back⟩

namespace SelfDelimiting

variable (delimits : SelfDelimiting write)

include delimits

theorem prepend (start : List Char) : SelfDelimiting fun a => start ++ write a := by
  intro a b rest others same
  rw [List.append_assoc, List.append_assoc] at same
  exact delimits (List.append_cancel_left same)

theorem append (stop : List Char) : SelfDelimiting fun a => write a ++ stop := by
  intro a b rest others same
  rw [List.append_assoc, List.append_assoc] at same
  obtain ⟨parts, later⟩ := delimits same
  exact ⟨parts, List.append_cancel_left later⟩

theorem pair {writeOther : β → List Char} (also : SelfDelimiting writeOther) :
    SelfDelimiting fun both : α × β => write both.1 ++ writeOther both.2 := by
  rintro ⟨a, c⟩ ⟨b, d⟩ rest others same
  rw [List.append_assoc, List.append_assoc] at same
  obtain ⟨rfl, later⟩ := delimits same
  obtain ⟨rfl, rests⟩ := also later
  exact ⟨rfl, rests⟩

/-- A row of parts before a mark that none of them begins with. -/
theorem row {mark : Char} (other : ∀ a rest others, write a ++ rest ≠ mark :: others) :
    SelfDelimiting fun parts : List α => parts.flatMap write ++ [mark] := by
  intro parts
  induction parts with
  | nil =>
    intro more rest others same
    cases more with
    | nil => exact ⟨rfl, (List.cons.inj same).2⟩
    | cons b more =>
      simp only [List.flatMap_cons, List.append_assoc] at same
      exact absurd same.symm (other b _ _)
  | cons a parts ih =>
    intro more rest others same
    simp only [List.flatMap_cons, List.append_assoc] at same
    cases more with
    | nil => exact absurd same (other a _ _)
    | cons b more =>
      simp only [List.flatMap_cons, List.append_assoc] at same
      obtain ⟨rfl, later⟩ := delimits same
      rw [← List.append_assoc, ← List.append_assoc] at later
      obtain ⟨rfl, rests⟩ := ih later
      exact ⟨rfl, rests⟩

/-- A row of parts is told by its text. -/
theorem flatMap_injective (some : ∀ a, write a ≠ []) :
    Function.Injective fun parts : List α => parts.flatMap write := by
  intro parts
  induction parts with
  | nil =>
    intro others same
    cases others with
    | nil => rfl
    | cons b others => exact absurd (List.append_eq_nil_iff.1 same.symm).1 (some b)
  | cons a parts ih =>
    intro others same
    cases others with
    | nil => exact absurd (List.append_eq_nil_iff.1 same).1 (some a)
    | cons b others =>
      obtain ⟨rfl, later⟩ := delimits same
      rw [ih later]

omit delimits in
theorem intercalate_cons (separator word : List Char) (words : List (List Char)) :
    separator.intercalate (word :: words) = word ++ words.flatMap (separator ++ ·) := by
  induction words generalizing word with
  | nil => simp
  | cons next words ih =>
    simp only [List.intercalate_cons_cons, ih, List.flatMap_cons, List.append_assoc]

/-- A row of parts is told by its text, also with separators between the parts. -/
theorem intercalate_injective (some : ∀ a, write a ≠ []) (separator : List Char) :
    Function.Injective fun parts : List α => separator.intercalate (parts.map write) := by
  intro parts others same
  cases parts with
  | nil =>
    cases others with
    | nil => rfl
    | cons b others =>
      simp only [List.map_nil, List.map_cons, intercalate_cons, List.intercalate_nil] at same
      exact absurd (List.append_eq_nil_iff.1 same.symm).1 (some b)
  | cons a parts =>
    cases others with
    | nil =>
      simp only [List.map_nil, List.map_cons, intercalate_cons, List.intercalate_nil] at same
      exact absurd (List.append_eq_nil_iff.1 same).1 (some a)
    | cons b others =>
      simp only [List.map_cons, intercalate_cons, List.flatMap_map] at same
      obtain ⟨rfl, later⟩ := delimits same
      have separated : ∀ c, separator ++ write c ≠ [] := fun c none =>
        some c (List.append_eq_nil_iff.1 none).2
      rw [(delimits.prepend separator).flatMap_injective separated later]

end SelfDelimiting

end StoryWorld.Text

import StoryWorld.Text.Range

/-!
# Blanks and trimming

A blank is one of the twenty-five characters with the property White_Space. Trimming removes blanks
from the ends of a text and nothing from its inside.

The functions work on lists of characters; `trim` on strings is the same seen through
`String.toList`. A trimmed list neither begins nor ends with a blank (`head?_trimStart`,
`getLast?_trimEnd`), and what has been removed is blank (`trimStart_append`).
-/

set_option autoImplicit false

namespace StoryWorld.Text

/-- The code points with the property White_Space, as closed ranges. -/
def blankRanges : List (Nat × Nat) :=
  [(0x9, 0xD), (0x20, 0x20), (0x85, 0x85), (0xA0, 0xA0), (0x1680, 0x1680), (0x2000, 0x200A),
    (0x2028, 0x2029), (0x202F, 0x202F), (0x205F, 0x205F), (0x3000, 0x3000)]

/-- Whether a character is White_Space. -/
def isBlank (c : Char) : Bool := inRanges blankRanges c.toNat

/-- The characters from the first one on that is not blank. -/
def trimStart (text : List Char) : List Char := text.dropWhile isBlank

/-- The characters up to the last one that is not blank. -/
def trimEnd (text : List Char) : List Char := (text.reverse.dropWhile isBlank).reverse

/-- The characters between the first and the last one that are not blank, these included. -/
def trim (text : List Char) : List Char := trimEnd (trimStart text)

/-- A string without the blanks at its ends. -/
def trimmed (text : String) : String := String.ofList (trim text.toList)

/-- A text splits into the blanks that are trimmed from its start and the rest. -/
theorem trimStart_append (text : List Char) :
    text.takeWhile isBlank ++ trimStart text = text :=
  List.takeWhile_append_dropWhile

/-- A trimmed text does not begin with a blank. -/
theorem head?_trimStart (text : List Char) :
    ∀ c, (trimStart text).head? = some c → isBlank c = false := by
  intro c first
  have := List.head?_dropWhile_not isBlank text
  unfold trimStart at first
  rw [first] at this
  simpa using this

/-- A text that does not begin with a blank stays as it is. -/
theorem trimStart_eq_self {text : List Char} (first : ∀ c ∈ text.head?, isBlank c = false) :
    trimStart text = text := by
  cases text with
  | nil => rfl
  | cons c rest =>
    have written : isBlank c ≠ true := by simp [first c rfl]
    exact List.dropWhile_cons_of_neg written

/-- A trimmed text does not end with a blank. -/
theorem getLast?_trimEnd (text : List Char) :
    ∀ c, (trimEnd text).getLast? = some c → isBlank c = false := by
  intro c last
  unfold trimEnd at last
  rw [List.getLast?_reverse] at last
  exact head?_trimStart text.reverse c last

/-- A text that does not end with a blank stays as it is. -/
theorem trimEnd_eq_self {text : List Char} (last : ∀ c ∈ text.getLast?, isBlank c = false) :
    trimEnd text = text := by
  rw [← List.head?_reverse] at last
  rw [trimEnd, ← trimStart, trimStart_eq_self last, List.reverse_reverse]

end StoryWorld.Text

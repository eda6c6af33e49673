/-!
# Cutting texts

Ways to cut a list of characters in two: at a given start, at a given last character, and at the
last occurrence of a character.
-/

set_option autoImplicit false

namespace StoryWorld.Text

/-- What follows a given start of a text. -/
def afterStart? : (start text : List Char) → Option (List Char)
  | [], text => some text
  | c :: start, d :: text => if c = d then afterStart? start text else none
  | _ :: _, [] => none

/-- What precedes a given last character of a text. -/
def beforeLast? (mark : Char) (text : List Char) : Option (List Char) :=
  if text.getLast? = some mark then some text.dropLast else none

/-- What precedes and what follows the last occurrence of a character. -/
def splitAtLast? (mark : Char) (text : List Char) : Option (List Char × List Char) :=
  match text.reverse.dropWhile (· ≠ mark) with
  | [] => none
  | _ :: before => some (before.reverse, (text.reverse.takeWhile (· ≠ mark)).reverse)

theorem afterStart?_append (start text : List Char) :
    afterStart? start (start ++ text) = some text := by
  induction start with
  | nil => cases text <;> rfl
  | cons c start ih => simp [afterStart?, ih]

theorem eq_append_of_afterStart? {start text rest : List Char}
    (found : afterStart? start text = some rest) : text = start ++ rest := by
  induction start generalizing text with
  | nil =>
    cases text <;> simp_all [afterStart?]
  | cons c start ih =>
    cases text with
    | nil => simp [afterStart?] at found
    | cons d text =>
      by_cases same : c = d
      · subst same
        simp only [afterStart?, if_true] at found
        rw [ih found, List.cons_append]
      · simp [afterStart?, same] at found

theorem beforeLast?_append (mark : Char) (text : List Char) :
    beforeLast? mark (text ++ [mark]) = some text := by
  simp [beforeLast?]

end StoryWorld.Text

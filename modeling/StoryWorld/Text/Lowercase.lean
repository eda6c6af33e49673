import StoryWorld.Text.CaseTable
import StoryWorld.Text.Range

/-!
# Lowercasing

The lowercase form of a text is that of its characters one after another, with one rule that looks
around: a capital sigma at the end of a word becomes the final sigma. It stands at the end of a word
when the nearest character before it that is not ignorable is a letter with case and the nearest one
after it is not.

Two texts name the same thing when their lowercase forms are equal.
-/

set_option autoImplicit false

namespace StoryWorld.Text

/-- Whether lowercasing looks past a character when it looks around. -/
def isCaseIgnorable (c : Char) : Bool := inRanges caseIgnorableRanges c.toNat

/-- Whether a character that is not looked past is a letter with case. -/
def isCased (c : Char) : Bool := inRanges casedRanges c.toNat

/-- The lowercase form of a character by itself. -/
def lowerChar (c : Char) : List Char :=
  if c = '\u0130' then ['i', '\u0307']
  else
    match lowercaseRuns.find? fun run => run.covers c.toNat with
    | some run => [Char.ofNat (c.toNat + run.shift).toNat]
    | none => [c]

/-- Whether the nearest character that is not ignorable is a letter with case. -/
def meetsCased (text : List Char) : Bool :=
  match text.dropWhile isCaseIgnorable with
  | [] => false
  | c :: _ => isCased c

/-- The lowercase form of a text, given what stands before it in reverse. -/
def lowerAfter (before : List Char) : List Char → List Char
  | [] => []
  | c :: rest =>
    let form :=
      if c = 'Σ' then
        if meetsCased before && !meetsCased rest then ['ς'] else ['σ']
      else lowerChar c
    form ++ lowerAfter (c :: before) rest

/-- The lowercase form of a string. -/
def lowercase (text : String) : String := String.ofList (lowerAfter [] text.toList)

end StoryWorld.Text

import StoryWorld.Proofs.Text.Delimited
import StoryWorld.Text.Digits
import StoryWorld.Text.Quoted

/-!
# Quoted texts are told apart

Every character between the quotes of a quoted text can be read off again (`unquoteChar`): an
escape begins with a backslash, its next character says which one it is, and a code point ends with
a brace that is no digit. No character is written with a double quote at its start, so the closing
quote shows where a quoted text ends, whatever the text contains (`selfDelimiting_quoted`).
-/

set_option autoImplicit false

namespace StoryWorld.Text

/-! ## Hexadecimal digits -/

theorem hexValue?_digitChar {digit : Nat} (short : digit < 16) :
    hexValue? digit.digitChar = some digit := by
  revert digit
  decide

theorem hexNumber?_append (digits : List Char) (c : Char) :
    hexNumber? (digits ++ [c]) =
      (hexNumber? digits).bind fun value => (hexValue? c).map (value * 16 + ·) := by
  unfold hexNumber?
  rw [List.foldlM_append]
  cases digits.foldlM (fun value c => (hexValue? c).map (value * 16 + ·)) 0 <;> simp

/-- A number is read from its hexadecimal digits. -/
theorem hexNumber?_toDigits (n : Nat) : hexNumber? (Nat.toDigits 16 n) = some n := by
  induction n using Nat.strongRecOn with
  | ind n ih =>
    rcases Nat.lt_or_ge n 16 with short | long
    · rw [Nat.toDigits_of_lt_base short, ← List.nil_append [_], hexNumber?_append,
        hexValue?_digitChar short]
      simp [hexNumber?]
    · rw [Nat.toDigits_of_base_le (by decide) long, hexNumber?_append, ih _ (by omega),
        hexValue?_digitChar (Nat.mod_lt _ (by decide))]
      simp only [Option.bind_some, Option.map_some]
      congr 1
      omega

theorem exists_digitChar_of_mem {n : Nat} {c : Char} (member : c ∈ Nat.toDigits 16 n) :
    ∃ digit < 16, c = digit.digitChar := by
  induction n using Nat.strongRecOn with
  | ind n ih =>
    rcases Nat.lt_or_ge n 16 with short | long
    · rw [Nat.toDigits_of_lt_base short] at member
      exact ⟨n, short, List.mem_singleton.1 member⟩
    · rw [Nat.toDigits_of_base_le (by decide) long] at member
      rcases List.mem_append.1 member with early | last
      · exact ih _ (by omega) early
      · exact ⟨n % 16, Nat.mod_lt _ (by decide), List.mem_singleton.1 last⟩

theorem brace_not_mem_toDigits (n : Nat) : '\x7d' ∉ Nat.toDigits 16 n := by
  intro member
  obtain ⟨digit, short, same⟩ := exists_digitChar_of_mem member
  revert digit
  decide

/-! ## Characters -/

/-- The letters that stand for a character after a backslash. -/
def escapes : List (Char × Char) :=
  [('"', '"'), ('\\', '\\'), ('n', '\n'), ('r', '\r'), ('t', '\t'), ('0', '\x00')]

/-- Reads one character at the start of what stands between quotes. -/
def unquoteChar : List Char → Option (Char × List Char)
  | '\\' :: 'u' :: _ :: text =>
    (hexNumber? (beforeFirst '\x7d' text)).map fun code =>
      (Char.ofNat code, afterFirst '\x7d' text)
  | '\\' :: letter :: rest => (escapes.lookup letter).map fun c => (c, rest)
  | c :: rest => some (c, rest)
  | [] => none

theorem unquoteChar_of_ne {c : Char} (bare : c ≠ '\\') (rest : List Char) :
    unquoteChar (c :: rest) = some (c, rest) := by
  unfold unquoteChar
  split
  case h_1 same => exact absurd (List.cons.inj same).1 bare
  case h_2 same => exact absurd (List.cons.inj same).1 bare
  case h_3 same =>
    cases same
    rfl
  case h_4 same => cases same

/-- Every character is read from what is written for it. -/
theorem unquoteChar_quoteChar (c : Char) (rest : List Char) :
    unquoteChar (quoteChar c ++ rest) = some (c, rest) := by
  unfold quoteChar
  split
  case isTrue same => subst same; rfl
  split
  case isTrue same => subst same; rfl
  split
  case isTrue same => subst same; rfl
  split
  case isTrue same => subst same; rfl
  split
  case isTrue same => subst same; rfl
  split
  case isTrue same => subst same; rfl
  split
  case isTrue => exact unquoteChar_of_ne ‹¬c = '\\'› rest
  case isFalse =>
    change unquoteChar ('\\' :: 'u' :: '\x7b' ::
      ((Nat.toDigits 16 c.toNat ++ ['\x7d']) ++ rest)) = _
    rw [List.append_assoc, List.singleton_append, unquoteChar,
      beforeFirst_append (brace_not_mem_toDigits _), afterFirst_append (brace_not_mem_toDigits _),
      hexNumber?_toDigits, Option.map_some, Char.ofNat_toNat]

theorem selfDelimiting_quoteChar : SelfDelimiting quoteChar :=
  .of_read unquoteChar unquoteChar_quoteChar

/-- No character is written with a double quote at its start. -/
theorem quoteChar_append_ne (c : Char) (rest others : List Char) :
    quoteChar c ++ rest ≠ '"' :: others := by
  intro same
  have read := congrArg unquoteChar same
  rw [unquoteChar_quoteChar, unquoteChar_of_ne (by decide)] at read
  obtain ⟨rfl, -⟩ := Prod.mk.inj (Option.some.inj read)
  exact absurd (List.cons.inj same).1 (by decide)

/-! ## Texts -/

theorem toList_quoted (text : String) :
    (quoted text).toList = ['"'] ++ (text.toList.flatMap quoteChar ++ ['"']) := by
  rw [quoted, String.toList_ofList]
  rfl

/-- **Quoted texts show where they end.** Whatever texts are quoted and whatever follows, the text
and what follows can be told apart. -/
theorem selfDelimiting_quoted : SelfDelimiting fun text : String => (quoted text).toList := by
  intro text other rest others same
  simp only [toList_quoted] at same
  obtain ⟨characters, later⟩ :=
    (selfDelimiting_quoteChar.row quoteChar_append_ne).prepend ['"'] same
  exact ⟨String.toList_inj.1 characters, later⟩

end StoryWorld.Text

import StoryWorld.Graph.Body

/-!
# Reading back keyed bodies

A body is found again in its stored form, whatever it consists of: brackets, equals signs and line
breaks included (`decode_encode`). The brackets that are taken off are the outermost ones, so those
of the body do no harm. The key does, if it begins with a blank: the blanks at the start of a stored
text are skipped before the key is looked for (`Keyable`). What is decoded then is longer than the
body (`length_lt_decode`), so these are the only keys under which a body is lost (`roundTrip_iff`).
-/

set_option autoImplicit false

namespace StoryWorld.Body

/-- Texts stored under this name have a key that is found again. The key of events is none of their
names. -/
def Keyable (name : String) (type : NodeType) : Prop :=
  type = .event ∨ name.toList.head?.any Text.isBlank = false

instance (name : String) (type : NodeType) : Decidable (Keyable name type) :=
  inferInstanceAs (Decidable (_ ∨ _))

variable {name : String} {type : NodeType}

/-- A key that is found again does not begin with a blank. -/
theorem Keyable.head?_key (keyable : Keyable name type) :
    (key name type).toList.head?.any Text.isBlank = false := by
  cases type with
  | event =>
    change eventKey.toList.head?.any Text.isBlank = false
    decide
  | location | character | sublocation => exact keyable.resolve_left NodeType.noConfusion

/-- Nothing but blanks is skipped before the key and the equals sign. -/
theorem Keyable.trimStart_key (keyable : Keyable name type) (rest : List Char) :
    Text.trimStart ((key name type).toList ++ '=' :: rest) =
      (key name type).toList ++ '=' :: rest := by
  have own := keyable.head?_key
  refine Text.trimStart_eq_self fun c first => ?_
  cases same : (key name type).toList with
  | nil =>
    rw [same] at first
    cases first
    decide
  | cons d others =>
    rw [same] at first own
    cases first
    exact own

/-- A body is found between the outermost brackets. -/
theorem bracketed?_append (body : List Char) :
    bracketed? ('[' :: (body ++ [']'])) = some body := by
  have closing : Text.trimEnd (body ++ [']']) = body ++ [']'] := by
    refine Text.trimEnd_eq_self fun c last => ?_
    rw [List.getLast?_concat] at last
    cases last
    decide
  rw [bracketed?, closing, Text.beforeLast?_append]

/-- A text that begins otherwise is not in brackets. -/
theorem bracketed?_cons_of_ne {c : Char} (other : c ≠ '[') (text : List Char) :
    bracketed? (c :: text) = none := by
  unfold bracketed?
  split
  · rename_i same
    exact absurd (List.cons.inj same).1 other
  · rfl

/-- A body is found between the outermost brackets after the key. -/
theorem keyed?_append (key body : List Char) :
    keyed? key (key ++ '=' :: '[' :: (body ++ [']'])) = some body := by
  simp only [keyed?, Text.afterStart?_append, Option.bind_eq_bind, Option.bind_some]
  exact bracketed?_append body

/-- An empty text is its own body. -/
theorem decode_empty (name : String) (type : NodeType) : decode "" name type = "" := by
  have none : keyed? (key name type).toList [] = none := by
    cases (key name type).toList <;> rfl
  simp only [decode, String.toList_empty, Text.trimStart, List.dropWhile_nil, none]
  rfl

/-- The stored form of a body, character by character. -/
theorem toList_encode {body : String} (some : body ≠ "") (name : String) (type : NodeType) :
    (encode body name type).toList =
      '\n' :: ((key name type).toList ++ '=' :: '[' :: (body.toList ++ [']'])) := by
  simp [encode, some]

/-- **A body is found again in its stored form.** -/
theorem decode_encode (keyable : Keyable name type) (body : String) :
    decode (encode body name type) name type = body := by
  by_cases empty : body = ""
  · rw [encode, if_pos empty, empty]
    exact decode_empty name type
  · have start : Text.trimStart (encode body name type).toList =
        (key name type).toList ++ '=' :: '[' :: (body.toList ++ [']']) := by
      rw [toList_encode empty]
      exact keyable.trimStart_key _
    simp only [decode, start, keyed?_append, Option.some_or]
    exact String.ofList_toList

/-! ## Keys that begin with a blank -/

/-- Nothing is skipped from a character on that is not blank. -/
theorem trimStart_append_cons (front rest : List Char) {c : Char}
    (written : Text.isBlank c = false) :
    Text.trimStart (front ++ c :: rest) = Text.trimStart front ++ c :: rest := by
  have stays : (c :: rest).dropWhile Text.isBlank = c :: rest :=
    List.dropWhile_cons_of_neg (by simp [written])
  rw [Text.trimStart, List.dropWhile_append, stays, Text.trimStart]
  split
  · rename_i none
    rw [List.isEmpty_iff.1 none, List.nil_append]
  · rfl

/-- A key that begins with a blank is not found where blanks have been skipped. -/
theorem keyed?_trimStart {c : Char} {key text : List Char} (blank : Text.isBlank c = true) :
    keyed? (c :: key) (Text.trimStart text) = none := by
  cases found : Text.afterStart? (c :: key) (Text.trimStart text) with
  | none => simp only [keyed?, found, Option.bind_eq_bind, Option.bind_none]
  | some rest =>
    have first : (Text.trimStart text).head? = some c := by
      rw [Text.eq_append_of_afterStart? found]
      rfl
    have written := Text.head?_trimStart text c first
    rw [blank] at written
    cases written

theorem length_encode {body : String} (some : body ≠ "") (name : String) (type : NodeType) :
    (encode body name type).length = body.length + (key name type).length + 4 := by
  rw [← String.length_toList, toList_encode some]
  simp only [List.length_cons, List.length_append, List.length_nil, String.length_toList]
  omega

/-- Under a key that begins with a blank, a body is not all that is decoded: what is taken for it
begins within the key, or with the whole stored text. -/
theorem length_lt_decode (lost : ¬ Keyable name type) {body : String} (some : body ≠ "") :
    body.length < (decode (encode body name type) name type).length := by
  obtain ⟨c, rest, named, blank⟩ : ∃ c rest, (key name type).toList = c :: rest ∧
      Text.isBlank c = true := by
    obtain ⟨noEvent, first⟩ := not_or.1 lost
    have own : key name type = name := by
      cases type with
      | event => exact absurd rfl noEvent
      | location | character | sublocation => rfl
    rw [own]
    cases letters : name.toList with
    | nil => simp [letters] at first
    | cons c rest => exact ⟨c, rest, rfl, by simpa [letters] using first⟩
  have whole := length_encode some name type
  have start : Text.trimStart (encode body name type).toList =
      Text.trimStart (key name type).toList ++ '=' :: '[' :: (body.toList ++ [']']) := by
    rw [toList_encode some]
    exact trimStart_append_cons _ _ (by decide)
  have unkeyed : keyed? (c :: rest) (Text.trimStart (encode body name type).toList) = none :=
    keyed?_trimStart blank
  rw [decode, named, unkeyed, Option.none_or, start]
  -- What is left of the key tells whether the text begins with a bracket.
  cases Text.trimStart (key name type).toList with
  | nil =>
    rw [List.nil_append, bracketed?_cons_of_ne (by decide)]
    dsimp only
    omega
  | cons d more =>
    by_cases opens : d = '['
    · subst opens
      have inBrackets := bracketed?_append (more ++ '=' :: '[' :: body.toList)
      simp only [List.append_assoc, List.cons_append] at inBrackets ⊢
      rw [inBrackets]
      simp only [String.length_ofList, List.length_append, List.length_cons, String.length_toList]
      omega
    · rw [List.cons_append, bracketed?_cons_of_ne opens]
      dsimp only
      omega

/-- **A body is found again just where its key is.** Decoding gives back the body that has been
encoded, and encoding it once more the same stored text, if and only if the body is empty, the node
is an event, or its name does not begin with a blank. -/
theorem roundTrip_iff (body name : String) (type : NodeType) :
    (decode (encode body name type) name type = body ↔ body = "" ∨ Keyable name type) ∧
      (encode (decode (encode body name type) name type) name type = encode body name type ↔
        body = "" ∨ Keyable name type) := by
  by_cases found : body = "" ∨ Keyable name type
  · have back : decode (encode body name type) name type = body := by
      rcases found with rfl | keyable
      · exact decode_empty name type
      · exact decode_encode keyable body
    exact ⟨iff_of_true back found, iff_of_true (by rw [back]) found⟩
  · obtain ⟨some, lost⟩ := not_or.1 found
    have longer := length_lt_decode lost some
    have more : decode (encode body name type) name type ≠ "" := by
      intro none
      rw [none] at longer
      exact Nat.not_lt_zero _ longer
    refine ⟨iff_of_false (fun same => ?_) found, iff_of_false (fun same => ?_) found⟩
    · rw [same] at longer
      exact Nat.lt_irrefl _ longer
    · have lengths := congrArg String.length same
      rw [length_encode more, length_encode some] at lengths
      omega

/-- A body under a name that begins with a blank is not found again, and is stored in another form
the next time. -/
theorem blankName_lost :
    ¬ ∀ (body name : String) (type : NodeType),
      decode (encode body name type) name type = body ∧
        encode (decode (encode body name type) name type) name type = encode body name type := by
  intro found
  have stored := (found "He is tall" " Bob" .character).1
  revert stored
  decide +kernel

end StoryWorld.Body

import StoryWorld.Proofs.Graph.KeyedBodies
import StoryWorld.Proofs.Text.Trimming

/-!
# What counts as a stored body

A text shows a body in one of two forms: in brackets after the key and an equals sign (`KeyedForm`),
or in brackets alone (`BareForm`), with blanks around the parts. Bodies and keys may contain
brackets, equals signs and blanks themselves, so the forms look ambiguous, and a text can have both
of them. Yet neither form fits a text in two ways, and decoding finds the body of the first form
that fits; a text of neither form is its own body (`decode_eq_iff`).

The brackets that count are the first one after the key and the last character that is not blank
(`bracketed?_eq_some_iff`). Blanks behind the key are skipped, blanks within it are not, which is
why a key has to begin with another character (`keyed?_trimStart_iff`).
-/

set_option autoImplicit false

namespace StoryWorld

namespace Text

theorem afterStart?_eq_some_iff {start text rest : List Char} :
    afterStart? start text = some rest ↔ text = start ++ rest :=
  ⟨eq_append_of_afterStart?, fun whole => whole ▸ afterStart?_append start rest⟩

theorem beforeLast?_eq_some_iff {mark : Char} {text before : List Char} :
    beforeLast? mark text = some before ↔ text = before ++ [mark] := by
  refine ⟨fun found => ?_, fun whole => whole ▸ beforeLast?_append mark before⟩
  unfold beforeLast? at found
  split at found
  · rename_i last
    obtain ⟨front, rfl⟩ := List.getLast?_eq_some_iff.1 last
    rw [List.dropLast_concat] at found
    cases found
    rfl
  · cases found

end Text

namespace Body

open Text (Blank)

/-! ## The two forms, character by character -/

/-- The brackets are the first character and the last one that is not blank. -/
theorem bracketed?_eq_some_iff {text body : List Char} :
    bracketed? text = some body ↔
      ∃ after, Blank after ∧ text = '[' :: (body ++ ']' :: after) := by
  constructor
  · intro found
    unfold bracketed? at found
    split at found
    · rename_i rest
      obtain ⟨after, blanks, whole⟩ := Text.exists_trimEnd_blank rest
      rw [Text.beforeLast?_eq_some_iff.1 found, List.append_assoc] at whole
      exact ⟨after, blanks, congrArg (List.cons '[') whole⟩
    · cases found
  · rintro ⟨after, blanks, rfl⟩
    rw [bracketed?, Text.trimEnd_concat_blank (by decide) body blanks, Text.beforeLast?_append]

/-- Between the key, the equals sign and the brackets there is nothing but blanks. -/
theorem keyed?_eq_some_iff {key text body : List Char} :
    keyed? key text = some body ↔
      ∃ behind between after, Blank behind ∧ Blank between ∧ Blank after ∧
        text = key ++ (behind ++ '=' :: (between ++ '[' :: (body ++ ']' :: after))) := by
  simp only [keyed?, Option.bind_eq_bind, Option.bind_eq_some_iff, Text.afterStart?_eq_some_iff,
    List.singleton_append, bracketed?_eq_some_iff]
  constructor
  · rintro ⟨rest, rfl, value, equals, after, blanks, brackets⟩
    obtain ⟨behind, behindBlank, whole⟩ := Text.exists_blank_trimStart rest
    obtain ⟨between, betweenBlank, inner⟩ := Text.exists_blank_trimStart value
    rw [equals] at whole
    rw [brackets] at inner
    exact ⟨behind, between, after, behindBlank, betweenBlank, blanks, by rw [whole, inner]⟩
  · rintro ⟨behind, between, after, behindBlank, betweenBlank, blanks, rfl⟩
    exact ⟨_, rfl, _, Text.trimStart_blank_cons behindBlank (by decide) _, after, blanks,
      Text.trimStart_blank_cons betweenBlank (by decide) _⟩

/-! ## The two forms of a text -/

/-- The text consists of the key, an equals sign and the body in brackets, with blanks around. -/
def KeyedForm (key stored body : String) : Prop :=
  ∃ before behind between after : String, Blank before.toList ∧ Blank behind.toList ∧
    Blank between.toList ∧ Blank after.toList ∧
    stored = before ++ key ++ behind ++ "=" ++ between ++ "[" ++ body ++ "]" ++ after

/-- The text consists of the body in brackets, with blanks around. -/
def BareForm (stored body : String) : Prop :=
  ∃ before after : String, Blank before.toList ∧ Blank after.toList ∧
    stored = before ++ "[" ++ body ++ "]" ++ after

/-- What a text stands for under a key: the body of the keyed form if the text has it, else that of
the bare form if the text has that one, else itself. -/
inductive StandsFor (key stored : String) : String → Prop where
  | keyed {body : String} (form : KeyedForm key stored body) : StandsFor key stored body
  | bare {body : String} (unkeyed : ∀ other, ¬ KeyedForm key stored other)
      (form : BareForm stored body) : StandsFor key stored body
  | plain (unkeyed : ∀ other, ¬ KeyedForm key stored other)
      (unbracketed : ∀ other, ¬ BareForm stored other) : StandsFor key stored stored

variable {name : String} {type : NodeType} {stored body : String}

/-- Of a key that does not begin with a blank nothing is trimmed, though of the blanks behind an
empty one all are. -/
theorem Keyable.trimStart_key_append (keyable : Keyable name type) {behind : List Char}
    (blanks : Blank behind) (rest : List Char) :
    ∃ left, Blank left ∧
      Text.trimStart ((key name type).toList ++ (behind ++ '=' :: rest)) =
        (key name type).toList ++ (left ++ '=' :: rest) := by
  have own := keyable.head?_key
  cases same : (key name type).toList with
  | nil =>
    exact ⟨[], fun _ none => absurd none List.not_mem_nil,
      Text.trimStart_blank_cons blanks (by decide) rest⟩
  | cons c others =>
    rw [same] at own
    exact ⟨behind, blanks, Text.trimStart_eq_self fun d first => by cases first; exact own⟩

/-- The keyed form is the one that is looked for first. -/
theorem keyed?_trimStart_iff (keyable : Keyable name type) :
    keyed? (key name type).toList (Text.trimStart stored.toList) = some body.toList ↔
      KeyedForm (key name type) stored body := by
  rw [keyed?_eq_some_iff]
  constructor
  · rintro ⟨behind, between, after, behindBlank, betweenBlank, afterBlank, text⟩
    obtain ⟨before, beforeBlank, whole⟩ := Text.exists_blank_trimStart stored.toList
    refine ⟨.ofList before, .ofList behind, .ofList between, .ofList after, ?_⟩
    simp only [String.toList_ofList]
    refine ⟨beforeBlank, behindBlank, betweenBlank, afterBlank, String.toList_inj.1 ?_⟩
    rw [whole, text]
    simp
  · rintro ⟨before, behind, between, after, beforeBlank, behindBlank, betweenBlank, afterBlank,
      rfl⟩
    obtain ⟨left, leftBlank, trimmed⟩ := keyable.trimStart_key_append behindBlank
      (between.toList ++ '[' :: (body.toList ++ ']' :: after.toList))
    refine ⟨left, between.toList, after.toList, leftBlank, betweenBlank, afterBlank, ?_⟩
    rw [← trimmed, ← Text.trimStart_blank_append beforeBlank ((key name type).toList ++ _)]
    simp

/-- The bare form is the one that is looked for next. -/
theorem bracketed?_trimStart_iff :
    bracketed? (Text.trimStart stored.toList) = some body.toList ↔ BareForm stored body := by
  rw [bracketed?_eq_some_iff]
  constructor
  · rintro ⟨after, afterBlank, text⟩
    obtain ⟨before, beforeBlank, whole⟩ := Text.exists_blank_trimStart stored.toList
    refine ⟨.ofList before, .ofList after, ?_⟩
    simp only [String.toList_ofList]
    refine ⟨beforeBlank, afterBlank, String.toList_inj.1 ?_⟩
    rw [whole, text]
    simp
  · rintro ⟨before, after, beforeBlank, afterBlank, rfl⟩
    refine ⟨after.toList, afterBlank, ?_⟩
    rw [← Text.trimStart_blank_cons beforeBlank (by decide)]
    simp

/-- The keyed form fits a text in one way only. -/
theorem KeyedForm.eq (keyable : Keyable name type) {other : String}
    (one : KeyedForm (key name type) stored body) (also : KeyedForm (key name type) stored other) :
    body = other := by
  rw [← keyed?_trimStart_iff keyable] at one also
  rw [one] at also
  exact String.toList_inj.1 (Option.some.inj also)

/-- The bare form fits a text in one way only. -/
theorem BareForm.eq {other : String} (one : BareForm stored body) (also : BareForm stored other) :
    body = other := by
  rw [← bracketed?_trimStart_iff] at one also
  rw [one] at also
  exact String.toList_inj.1 (Option.some.inj also)

/-! ## Decoding -/

/-- A text stands for what is decoded from it. -/
theorem standsFor_decode (keyable : Keyable name type) (stored : String) :
    StandsFor (key name type) stored (decode stored name type) := by
  cases keyed : keyed? (key name type).toList (Text.trimStart stored.toList) with
  | some found =>
    have decoded : decode stored name type = String.ofList found := by
      simp only [decode, keyed, Option.some_or]
    refine decoded ▸ .keyed ((keyed?_trimStart_iff keyable).1 ?_)
    rw [keyed, String.toList_ofList]
  | none =>
    have unkeyed : ∀ other, ¬ KeyedForm (key name type) stored other := by
      intro other form
      rw [← keyed?_trimStart_iff keyable, keyed] at form
      cases form
    cases bare : bracketed? (Text.trimStart stored.toList) with
    | some found =>
      have decoded : decode stored name type = String.ofList found := by
        simp only [decode, keyed, bare, Option.none_or]
      refine decoded ▸ .bare unkeyed (bracketed?_trimStart_iff.1 ?_)
      rw [bare, String.toList_ofList]
    | none =>
      have decoded : decode stored name type = stored := by
        simp only [decode, keyed, bare, Option.none_or]
      rw [decoded]
      refine .plain unkeyed fun other form => ?_
      rw [← bracketed?_trimStart_iff, bare] at form
      cases form

/-- A text stands for one body only. -/
theorem StandsFor.eq (keyable : Keyable name type) {other : String}
    (one : StandsFor (key name type) stored body) (also : StandsFor (key name type) stored other) :
    body = other := by
  cases one with
  | keyed form =>
    cases also with
    | keyed another => exact form.eq keyable another
    | bare unkeyed | plain unkeyed => exact absurd form (unkeyed body)
  | bare unkeyed form =>
    cases also with
    | keyed another => exact absurd another (unkeyed other)
    | bare _ another => exact form.eq another
    | plain _ unbracketed => exact absurd form (unbracketed body)
  | plain unkeyed unbracketed =>
    cases also with
    | keyed another => exact absurd another (unkeyed other)
    | bare _ another => exact absurd another (unbracketed other)
    | plain => rfl

/-- **Decoding takes off just the two stored forms.** Under a name that does not begin with a blank,
and for events under any name, each of the two forms fits a text in one way at most, and what is
decoded is what the text stands for. -/
theorem decode_eq_iff (keyable : Keyable name type) (stored : String) :
    (∀ body other, KeyedForm (key name type) stored body →
        KeyedForm (key name type) stored other → body = other) ∧
      (∀ body other, BareForm stored body → BareForm stored other → body = other) ∧
      ∀ body, decode stored name type = body ↔ StandsFor (key name type) stored body := by
  refine ⟨fun _ _ one also => one.eq keyable also, fun _ _ one also => one.eq also, ?_⟩
  intro body
  constructor
  · rintro rfl
    exact standsFor_decode keyable stored
  · intro stands
    exact (standsFor_decode keyable stored).eq keyable stands

/-- A name that begins like a bare form, and a text that has both forms under it: the keyed one
counts. -/
theorem bracketedName_decoded :
    Keyable "[Bob" .character ∧
      BareForm "\u2003[Bob\u00a0=\n[[tall] = [x]]\u3000" "Bob\u00a0=\n[[tall] = [x]" ∧
      decode "\u2003[Bob\u00a0=\n[[tall] = [x]]\u3000" "[Bob" .character = "[tall] = [x]" := by
  have keyable : Keyable "[Bob" .character := by decide
  have form : KeyedForm (key "[Bob" .character) "\u2003[Bob\u00a0=\n[[tall] = [x]]\u3000"
      "[tall] = [x]" :=
    ⟨"\u2003", "\u00a0", "\n", "\u3000", by decide, by decide, by decide, by decide, by decide⟩
  refine ⟨keyable, ⟨"\u2003", "\u3000", by decide, by decide, by decide⟩, ?_⟩
  exact ((decode_eq_iff keyable _).2.2 _).2 (.keyed form)

end Body

end StoryWorld

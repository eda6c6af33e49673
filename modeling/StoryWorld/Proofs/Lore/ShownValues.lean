import StoryWorld.Proofs.Decimal.Texts
import StoryWorld.Proofs.Lore.RoundTrip
import StoryWorld.Proofs.Text.Quoted

/-!
# Compared values and their texts

A value of a compared field is shown sorted, quoted, and with brackets and commas. Two values are
the same just if they are shown by the same text (`DerivedValue.same_iff_text_eq`): sorting forgets
the order and the repeats, which are not compared, and nothing else is lost, since quoted texts and
doubles are told apart wherever they end, even if they contain quotes, commas or brackets.
-/

set_option autoImplicit false

namespace StoryWorld

/-! ## Sorting -/

theorem notAfter_iff {a b : String} : notAfter a b = true ↔ a ≤ b := by
  rw [notAfter, Bool.not_eq_true', decide_eq_false_iff_not]
  exact Iff.rfl

/-- Lists with the same items are sorted alike, if the items have different keys. -/
theorem mergeSort_eq_iff_perm {α : Type} (key : α → String) {items others : List α}
    (distinct : (items.map key).Nodup) :
    (items.mergeSort fun a b => notAfter (key a) (key b)) =
        (others.mergeSort fun a b => notAfter (key a) (key b)) ↔ items.Perm others := by
  have sorted (list : List α) :
      (list.mergeSort fun a b => notAfter (key a) (key b)).Pairwise
        fun a b => notAfter (key a) (key b) = true := by
    refine List.pairwise_mergeSort (fun a b c first second => ?_) (fun a b => ?_) list
    · exact notAfter_iff.2 (String.le_trans (notAfter_iff.1 first) (notAfter_iff.1 second))
    · rw [Bool.or_eq_true, notAfter_iff, notAfter_iff]
      exact String.le_total _ _
  constructor
  · intro same
    exact (List.mergeSort_perm items _).symm.trans
      ((List.Perm.of_eq same).trans (List.mergeSort_perm others _))
  · intro perm
    have both := (List.mergeSort_perm items fun a b => notAfter (key a) (key b)).trans
      (perm.trans (List.mergeSort_perm others fun a b => notAfter (key a) (key b)).symm)
    refine both.eq_of_pairwise ?_ (sorted items) (sorted others)
    intro a b left right before after
    have keys : key a = key b :=
      String.le_antisymm (notAfter_iff.1 before) (notAfter_iff.1 after)
    have inside : b ∈ items := perm.mem_iff.2 (List.mem_mergeSort.1 right)
    exact List.inj_on_of_nodup_map distinct (List.mem_mergeSort.1 left) inside keys

/-! ## Brackets -/

theorem listed_injective {α : Type} {opening closing : String} {write : α → String}
    (delimits : Text.SelfDelimiting fun a => (write a).toList)
    (some : ∀ a, (write a).toList ≠ []) :
    Function.Injective fun items : List α => listed opening closing (items.map write) := by
  intro items others same
  have texts := congrArg String.toList same
  simp only [listed, String.toList_append, String.toList_intercalate, List.map_map] at texts
  exact delimits.intercalate_injective some ", ".toList
    (List.append_cancel_left (List.append_cancel_right texts))

/-! ## Words -/

theorem sameWords_iff {words others : List String} :
    sameWords words others = true ↔ ∀ word, word ∈ words ↔ word ∈ others := by
  refine ⟨fun same word => ?_, sameWords_of_mem_iff⟩
  rw [sameWords, Bool.and_eq_true, List.all_eq_true, List.all_eq_true] at same
  exact ⟨fun member => of_decide_eq_true (same.1 word member),
    fun member => of_decide_eq_true (same.2 word member)⟩

theorem quoted_ne_nil (text : String) : (Text.quoted text).toList ≠ [] := by
  rw [Text.toList_quoted]
  exact List.cons_ne_nil _ _

/-- Words have the same text just if they are the same as a set. -/
theorem words_text_eq_iff {words others : List String} :
    (DerivedValue.words words).text = (DerivedValue.words others).text ↔
      ∀ word, word ∈ words ↔ word ∈ others := by
  unfold DerivedValue.text
  rw [(listed_injective Text.selfDelimiting_quoted quoted_ne_nil).eq_iff]
  refine (mergeSort_eq_iff_perm id ?_).trans ?_
  · rw [List.map_id]
    exact nodup_distinct words
  · rw [List.perm_ext_iff_of_nodup (nodup_distinct words) (nodup_distinct others)]
    simp only [mem_distinct]

/-! ## Chances -/

/-- An entry of a spawn table, as it is shown. -/
def chanceText (entry : String × Float) : String :=
  "(" ++ Text.quoted entry.1 ++ ", " ++ String.ofList (Decimal.Form.plain.render entry.2) ++ ")"

theorem toList_chanceText (entry : String × Float) :
    (chanceText entry).toList =
      ['('] ++ ((Text.quoted entry.1).toList ++
        ([',', ' '] ++ (Decimal.Form.plain.render entry.2 ++ [')']))) := by
  simp [chanceText]

theorem selfDelimiting_chanceText :
    Text.SelfDelimiting fun entry => (chanceText entry).toList := by
  simp only [toList_chanceText]
  have open_ended (x : Float) : ')' ∉ Decimal.Form.plain.render x :=
    Decimal.not_mem_render .plain (by decide) (by decide) (by decide)
  have number := Text.SelfDelimiting.of_mark (Decimal.Form.render_injective .plain) open_ended
  exact (Text.selfDelimiting_quoted.pair (number.prepend [',', ' '])).prepend ['(']

theorem chances_text_eq_iff {table other : Table String Float} :
    (DerivedValue.chances table).text = (DerivedValue.chances other).text ↔ table.Same other := by
  have some (entry : String × Float) : (chanceText entry).toList ≠ [] := by
    rw [toList_chanceText]
    exact List.cons_ne_nil _ _
  refine ((listed_injective selfDelimiting_chanceText some).eq_iff).trans ?_
  exact (mergeSort_eq_iff_perm Prod.fst table.keys_nodup).trans Table.same_iff_perm.symm

/-! ## Values -/

/-- Words stand between other brackets than chances. -/
theorem words_text_ne_chances_text (words : List String) (table : Table String Float) :
    (DerivedValue.words words).text ≠ (DerivedValue.chances table).text := by
  intro same
  have first := congrArg (fun text => text.toList.head?) same
  simp [DerivedValue.text, listed, Json.openBrace] at first

/-- **The texts of compared values tell them apart.** Two values of a compared field are the same
just if they are shown by the same text. -/
theorem DerivedValue.same_iff_text_eq (one other : DerivedValue) :
    one.same other = true ↔ one.text = other.text := by
  cases one with
  | words words =>
    cases other with
    | words others => exact sameWords_iff.trans words_text_eq_iff.symm
    | chances table => exact iff_of_false nofun (words_text_ne_chances_text words table)
  | chances table =>
    cases other with
    | words words => exact iff_of_false nofun (words_text_ne_chances_text words table).symm
    | chances others => exact sameChances_iff.trans chances_text_eq_iff.symm

end StoryWorld

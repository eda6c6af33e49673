import Mathlib.Data.Prod.Lex
import StoryWorld.Proofs.Table

/-!
# Tables of what is mentioned

Keys are mentioned at positions, each time with a value. One key may be mentioned several times, and
two mentions are told apart by their positions, which are ordered. A table records this
(`Table.Records`) if it has the keys that are mentioned, in the order of their first mention, and
under each key the value of its last mention.

Binding a key after all others is one mention more (`Records.insert`). So a table records the pairs
that it is bound from (`records_ofList`), and where the pairs are told by the items of a list, it
records what these tell at their places in the list (`records_ofList_filterMap`).
-/

set_option autoImplicit false

namespace StoryWorld

/-- The positions of a list ascend. -/
theorem ascending_zipIdx {α : Type} (items : List α) :
    items.zipIdx.Pairwise fun entry later => entry.2 < later.2 := by
  refine List.pairwise_map.1 ?_
  rw [List.zipIdx_map_snd]
  exact List.pairwise_lt_range' ..

namespace Table

/-! ## Mentions at positions -/

section Mentions

variable {π κ α : Type} [LinearOrder π]

/-- A key is mentioned before all mentions of a later one. -/
def MentionedBefore (mentions : π → κ → α → Prop) (key later : κ) : Prop :=
  ∃ position value, mentions position key value ∧
    ∀ other last, mentions other later last → position < other

/-- The last mention of a key gives it the value. -/
def LastMentioned (mentions : π → κ → α → Prop) (key : κ) (value : α) : Prop :=
  ∃ position, mentions position key value ∧
    ∀ other earlier, mentions other key earlier → other ≤ position

/-- What has been mentioned, and one mention more. -/
def OneMore (mentions : π → κ → α → Prop) (position : π) (key : κ) (value : α) (other : π)
    (word : κ) (said : α) : Prop :=
  mentions other word said ∨ other = position ∧ word = key ∧ said = value

variable {mentions : π → κ → α → Prop} {position : π} {key word later : κ} {value : α}

/-- The last mention of another key stays as it was. -/
theorem lastMentioned_oneMore_of_ne (differs : word ≠ key) (said : α) :
    LastMentioned (OneMore mentions position key value) word said ↔
      LastMentioned mentions word said := by
  have same : ∀ other any, OneMore mentions position key value other word any ↔
      mentions other word any := fun _ _ => or_iff_left fun new => differs new.2.1
  simp only [LastMentioned, same]

variable (after : ∀ other word said, mentions other word said → other < position)

include after

/-- A mention after all others does not change which of two keys came first. -/
theorem MentionedBefore.oneMore (before : MentionedBefore mentions word later) :
    MentionedBefore (OneMore mentions position key value) word later := by
  obtain ⟨first, said, old, before⟩ := before
  refine ⟨first, said, Or.inl old, fun other last => ?_⟩
  rintro (older | ⟨rfl, -, -⟩)
  · exact before other last older
  · exact after first word said old

/-- A key that is mentioned for the first time comes after the keys that have been mentioned. -/
theorem mentionedBefore_oneMore (fresh : ∀ other said, ¬ mentions other key said) {first : π}
    {said : α} (old : mentions first word said) :
    MentionedBefore (OneMore mentions position key value) word key := by
  refine ⟨first, said, Or.inl old, fun other last => ?_⟩
  rintro (older | ⟨rfl, -, -⟩)
  · exact absurd older (fresh other last)
  · exact after first word said old

/-- Of the key that is mentioned once more, the new mention is the last one. -/
theorem lastMentioned_oneMore_self (said : α) :
    LastMentioned (OneMore mentions position key value) key said ↔ value = said := by
  constructor
  · rintro ⟨first, old | ⟨-, -, rfl⟩, latest⟩
    · have late := latest position value (Or.inr ⟨rfl, rfl, rfl⟩)
      exact absurd (after first key said old) late.not_gt
    · rfl
  · rintro rfl
    refine ⟨position, Or.inr ⟨rfl, rfl, rfl⟩, fun other any => ?_⟩
    rintro (old | ⟨rfl, -, -⟩)
    · exact (after other key any old).le
    · exact le_rfl

end Mentions

/-! ## Tables that record mentions -/

variable {π κ α : Type} [LinearOrder π] [DecidableEq κ]

/-- The table has the keys that are mentioned at some position, in the order of their first mention,
and under each the value of its last mention. -/
structure Records (table : Table κ α) (mentions : π → κ → α → Prop) : Prop where
  keys : ∀ key, key ∈ table.keys ↔ ∃ position value, mentions position key value
  order : table.keys.Pairwise (MentionedBefore mentions)
  last : ∀ key value, table.get? key = some value ↔ LastMentioned mentions key value

variable {table : Table κ α} {mentions others : π → κ → α → Prop}

theorem Records.congr (records : table.Records mentions)
    (same : ∀ position key value, mentions position key value ↔ others position key value) :
    table.Records others := by
  have equal : mentions = others := by
    funext position key value
    exact propext (same position key value)
  exact equal ▸ records

theorem records_empty : (empty : Table κ α).Records fun (_ : π) _ _ => False where
  keys := by simp
  order := List.Pairwise.nil
  last := by simp [LastMentioned, get?, empty]

/-- Binding a key records a mention of it that comes after all others. -/
theorem Records.insert (records : table.Records mentions) {position : π} (key : κ) (value : α)
    (after : ∀ other word said, mentions other word said → other < position) :
    (table.insert key value).Records (OneMore mentions position key value) := by
  constructor
  case keys =>
    intro word
    rw [mem_keys_insert, records.keys]
    constructor
    · rintro (rfl | ⟨other, said, old⟩)
      · exact ⟨position, value, Or.inr ⟨rfl, rfl, rfl⟩⟩
      · exact ⟨other, said, Or.inl old⟩
    · rintro ⟨other, said, old | ⟨-, rfl, -⟩⟩
      · exact Or.inr ⟨other, said, old⟩
      · exact Or.inl rfl
  case order =>
    have kept : table.keys.Pairwise (MentionedBefore (OneMore mentions position key value)) :=
      records.order.imp fun before => before.oneMore after
    rw [keys_insert]
    split
    · exact kept
    · -- A key that is not bound has not been mentioned.
      rename_i unbound
      have fresh : ∀ other said, ¬ mentions other key said :=
        fun other said old => unbound ((records.keys key).2 ⟨other, said, old⟩)
      refine List.pairwise_append.2 ⟨kept, List.pairwise_singleton .., ?_⟩
      intro word member later isNew
      cases List.mem_singleton.1 isNew
      obtain ⟨first, said, old⟩ := (records.keys word).1 member
      exact mentionedBefore_oneMore after fresh old
  case last =>
    intro word said
    rw [get?_insert]
    split
    · rename_i same
      subst same
      rw [lastMentioned_oneMore_self after, Option.some.injEq]
    · rename_i differs
      rw [records.last, lastMentioned_oneMore_of_ne differs]

/-- The table that is bound from pairs records them at their positions, if these ascend. -/
theorem records_ofList {marks : List (π × κ × α)}
    (ascending : marks.Pairwise fun mark later => mark.1 < later.1) :
    (ofList (marks.map Prod.snd)).Records fun position key value =>
      (position, key, value) ∈ marks := by
  induction marks using List.reverseRecOn with
  | nil => exact records_empty.congr (by simp)
  | append_singleton marks mark ih =>
    obtain ⟨before, -, later⟩ := List.pairwise_append.1 ascending
    have inserted := (ih before).insert mark.2.1 mark.2.2 fun _ _ _ member =>
      later _ member mark (List.mem_singleton_self mark)
    have bound : ofList ((marks ++ [mark]).map Prod.snd) =
        (ofList (marks.map Prod.snd)).insert mark.2.1 mark.2.2 := by
      rw [ofList, List.map_append, List.foldl_append]
      rfl
    rw [bound]
    exact inserted.congr (by simp [OneMore, Prod.ext_iff])

/-! ## What the items of a list tell -/

section Told

variable {ι : Type}

/-- What the items of a list tell, by their places. -/
def told (items : List ι) (tell : ι → Option (κ × α)) : List (ℕ × κ × α) :=
  items.zipIdx.filterMap fun entry => (tell entry.1).map (entry.2, ·)

omit [DecidableEq κ] in
theorem map_snd_told (items : List ι) (tell : ι → Option (κ × α)) :
    (told items tell).map Prod.snd = items.filterMap tell := by
  rw [told, List.map_filterMap]
  conv_rhs => rw [← List.zipIdx_map_fst 0 items, List.filterMap_map]
  simp only [Option.map_map, Function.comp_def, Option.map_id']

omit [DecidableEq κ] in
theorem ascending_told (items : List ι) (tell : ι → Option (κ × α)) :
    (told items tell).Pairwise fun mark later => mark.1 < later.1 := by
  refine (ascending_zipIdx items).filterMap _ fun entry later below mark here other there => ?_
  obtain ⟨_, -, rfl⟩ := Option.map_eq_some_iff.1 here
  obtain ⟨_, -, rfl⟩ := Option.map_eq_some_iff.1 there
  exact below

omit [DecidableEq κ] in
theorem mem_told {items : List ι} {tell : ι → Option (κ × α)} {place : ℕ} {pair : κ × α} :
    (place, pair) ∈ told items tell ↔
      ∃ item, items[place]? = some item ∧ tell item = some pair := by
  rw [told, List.mem_filterMap]
  constructor
  · rintro ⟨⟨item, number⟩, inside, marked⟩
    obtain ⟨_, tells, same⟩ := Option.map_eq_some_iff.1 marked
    cases same
    exact ⟨item, List.mem_zipIdx_iff_getElem?.1 inside, tells⟩
  · rintro ⟨item, here, tells⟩
    refine ⟨(item, place), List.mem_zipIdx_iff_getElem?.2 here, ?_⟩
    rw [tells]
    rfl

/-- The table that is bound from what the items of a list tell records it. -/
theorem records_ofList_filterMap (items : List ι) (tell : ι → Option (κ × α)) :
    (ofList (items.filterMap tell)).Records fun (place : ℕ) key value =>
      ∃ item, items[place]? = some item ∧ tell item = some (key, value) := by
  rw [← map_snd_told]
  exact (records_ofList (ascending_told items tell)).congr fun _ _ _ => mem_told

end Told

end Table

end StoryWorld

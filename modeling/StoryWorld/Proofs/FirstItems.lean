import Mathlib.Logic.Basic

/-!
# What stands first in a list

The first item of a list with a property has all items without it before it (`FirstWith`). It is
what a search for the property finds (`find?_eq_some_iff_firstWith`), and every other item that has
the property stands behind it (`FirstWith.eq_or_standsBefore`).
-/

set_option autoImplicit false

namespace StoryWorld

variable {α β : Type} {items : List α} {item : α}

/-- The item of a list is the first that has a property. -/
def FirstWith (has : α → Prop) (items : List α) (item : α) : Prop :=
  ∃ before after, items = before ++ item :: after ∧ has item ∧ ∀ earlier ∈ before, ¬ has earlier

theorem FirstWith.has {has : α → Prop} (first : FirstWith has items item) : has item := by
  obtain ⟨-, -, -, holds, -⟩ := first
  exact holds

/-- What is found first is found at the first item that something is found at. -/
theorem findSome?_eq_some_iff_firstWith {find : α → Option β} {has : α → Prop}
    (absent : ∀ item, find item = none ↔ ¬ has item) {found : β} :
    items.findSome? find = some found ↔
      ∃ item, FirstWith has items item ∧ find item = some found := by
  rw [List.findSome?_eq_some_iff]
  constructor
  · rintro ⟨before, item, after, split, here, none⟩
    have present : has item := by
      refine not_not.1 fun lacks => ?_
      rw [(absent item).2 lacks] at here
      cases here
    exact ⟨item, ⟨before, after, split, present, fun earlier member =>
      (absent earlier).1 (none earlier member)⟩, here⟩
  · rintro ⟨item, ⟨before, after, split, -, none⟩, here⟩
    exact ⟨before, item, after, split, here, fun earlier member =>
      (absent earlier).2 (none earlier member)⟩

/-- The first item that passes a test is the first that has the property the test decides. -/
theorem find?_eq_some_iff_firstWith {test : α → Bool} {has : α → Prop}
    (decides : ∀ item, test item = true ↔ has item) :
    items.find? test = some item ↔ FirstWith has items item := by
  have fails (other : α) : (!test other) = true ↔ ¬ has other := by
    rw [Bool.not_eq_true', ← Bool.not_eq_true, decides]
  rw [List.find?_eq_some_iff_append, FirstWith, decides]
  simp only [fails]
  constructor
  · rintro ⟨here, before, after, split, none⟩
    exact ⟨before, after, split, here, none⟩
  · rintro ⟨before, after, split, here, none⟩
    exact ⟨here, before, after, split, none⟩

/-- The first item stands before the second one in the list. -/
def StandsBefore (items : List α) (first second : α) : Prop :=
  ∃ before after, items = before ++ second :: after ∧ first ∈ before

theorem StandsBefore.map {first second : α} (f : α → β)
    (order : StandsBefore items first second) :
    StandsBefore (items.map f) (f first) (f second) := by
  obtain ⟨before, after, rfl, inside⟩ := order
  exact ⟨before.map f, after.map f, by rw [List.map_append, List.map_cons],
    List.mem_map_of_mem inside⟩

/-- An item with a property is the first one or stands behind it. -/
theorem FirstWith.eq_or_standsBefore {has : α → Prop} {first : α}
    (isFirst : FirstWith has items first) (member : item ∈ items) (own : has item) :
    first = item ∨ StandsBefore items first item := by
  obtain ⟨before, after, rfl, -, none⟩ := isFirst
  rcases List.mem_append.1 member with earlier | later
  · exact absurd own (none item earlier)
  · rcases List.mem_cons.1 later with same | behind
    · exact Or.inl same.symm
    · obtain ⟨middle, rest, rfl⟩ := List.append_of_mem behind
      exact Or.inr ⟨before ++ first :: middle, rest, by simp, by simp⟩

end StoryWorld

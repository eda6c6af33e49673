import Mathlib.Data.List.Forall2
import Mathlib.Data.List.Nodup
import Mathlib.Data.List.Perm.Subperm

/-!
# Lists related item by item

Two lists are related item by item when they are equally long and items at the same place are
related. What is known of one list then carries over to the other: each item has a counterpart, and
maps that agree on counterparts give the same list. `exists_subperm_forall₂` finds such a relation
where the items of a list stem from those of another one, each from a different one.
-/

set_option autoImplicit false

namespace StoryWorld

section Related

variable {α β γ : Type} {related : α → β → Prop} {first : List α} {second : List β}

theorem exists_right_of_forall₂ (each : List.Forall₂ related first second) {a : α}
    (member : a ∈ first) : ∃ b ∈ second, related a b := by
  induction each with
  | nil => cases member
  | cons here _ ih =>
    rcases List.mem_cons.1 member with rfl | later
    · exact ⟨_, List.mem_cons_self .., here⟩
    · obtain ⟨b, inside, same⟩ := ih later
      exact ⟨b, List.mem_cons_of_mem _ inside, same⟩

theorem exists_left_of_forall₂ (each : List.Forall₂ related first second) {b : β}
    (member : b ∈ second) : ∃ a ∈ first, related a b := by
  induction each with
  | nil => cases member
  | cons here _ ih =>
    rcases List.mem_cons.1 member with rfl | later
    · exact ⟨_, List.mem_cons_self .., here⟩
    · obtain ⟨a, inside, same⟩ := ih later
      exact ⟨a, List.mem_cons_of_mem _ inside, same⟩

/-- The relation may be assumed together with where the items come from. -/
theorem forall₂_and_mem (each : List.Forall₂ related first second) :
    List.Forall₂ (fun a b => a ∈ first ∧ related a b) first second :=
  (List.forall₂_and_left _ _).2 ⟨fun _ member => member, each⟩

/-- The relation may be assumed together with the places of the items. -/
theorem forall₂_and_mem_zip (each : List.Forall₂ related first second) :
    List.Forall₂ (fun a b => (a, b) ∈ first.zip second ∧ related a b) first second :=
  List.forall₂_iff_zip.2 ⟨each.length_eq, fun paired => ⟨paired, List.forall₂_zip each paired⟩⟩

/-- Where the items of the second list differ, each of them stands beside one item of the first. -/
theorem eq_left_of_mem_zip (distinct : second.Nodup) {a other : α} {b : β}
    (one : (a, b) ∈ first.zip second) (also : (other, b) ∈ first.zip second) : a = other := by
  induction first generalizing second with
  | nil => cases one
  | cons head rest ih =>
    cases second with
    | nil => cases one
    | cons beside more =>
      obtain ⟨fresh, distinct⟩ := List.nodup_cons.1 distinct
      rw [List.zip_cons_cons, List.mem_cons, Prod.mk.injEq] at one also
      rcases one with ⟨rfl, rfl⟩ | later
      · rcases also with ⟨rfl, -⟩ | later
        · rfl
        · exact absurd (List.of_mem_zip later).2 fresh
      · rcases also with ⟨-, rfl⟩ | alsoLater
        · exact absurd (List.of_mem_zip later).2 fresh
        · exact ih distinct later alsoLater

theorem map_eq_of_forall₂ {f : α → γ} {g : β → γ} (each : List.Forall₂ related first second)
    (same : ∀ a ∈ first, ∀ b, related a b → g b = f a) : second.map g = first.map f := by
  induction each with
  | nil => rfl
  | cons here _ ih =>
    rw [List.map_cons, List.map_cons, same _ (List.mem_cons_self ..) _ here,
      ih fun a member => same a (List.mem_cons_of_mem _ member)]

theorem filterMap_eq_of_forall₂ {f : α → Option γ} {g : β → Option γ}
    (each : List.Forall₂ related first second) (same : ∀ a b, related a b → g b = f a) :
    second.filterMap g = first.filterMap f := by
  induction each with
  | nil => rfl
  | cons here _ ih => rw [List.filterMap_cons, List.filterMap_cons, same _ _ here, ih]

theorem flatMap_eq_of_forall₂ {f : α → List γ} {g : β → List γ}
    (each : List.Forall₂ related first second) (same : ∀ a b, related a b → g b = f a) :
    second.flatMap g = first.flatMap f := by
  rw [List.flatMap_def, List.flatMap_def, map_eq_of_forall₂ each fun a _ => same a]

/-- Tests that agree on counterparts find counterparts first. -/
theorem rel_find? {test : α → Bool} {testOther : β → Bool}
    (each : List.Forall₂ related first second)
    (agree : ∀ a b, related a b → testOther b = test a) :
    Option.Rel related (first.find? test) (second.find? testOther) := by
  induction each with
  | nil => exact .none
  | cons here _ ih =>
    rw [List.find?_cons, List.find?_cons, agree _ _ here]
    split
    · exact .some here
    · exact ih

/-- Steps that agree on counterparts give the same from what is found, if anything is. -/
theorem bind_eq_of_optionRel {f : α → Option γ} {g : β → Option γ} {one : Option α}
    {other : Option β} (found : Option.Rel related one other)
    (same : ∀ a b, related a b → g b = f a) : other.bind g = one.bind f := by
  cases found with
  | none => rfl
  | some here => exact same _ _ here

theorem map_eq_of_optionRel {f : α → γ} {g : β → γ} {one : Option α} {other : Option β}
    (found : Option.Rel related one other) (same : ∀ a b, related a b → g b = f a) :
    other.map g = one.map f := by
  rw [Option.map_eq_bind, Option.map_eq_bind]
  exact bind_eq_of_optionRel found fun a b here => congrArg some (same a b here)

/-- What two lists give pair by pair is nothing just if each item of the first gives nothing. -/
theorem flatMap_zip_eq_nil_iff {f : α × β → List γ} {quiet : α → Prop}
    (each : List.Forall₂ (fun a b => f (a, b) = [] ↔ quiet a) first second) :
    (first.zip second).flatMap f = [] ↔ ∀ a ∈ first, quiet a := by
  induction each with
  | nil => simp
  | cons here _ ih =>
    rw [List.zip_cons_cons, List.flatMap_cons, List.append_eq_nil_iff, here, ih,
      List.forall_mem_cons]

/-- Lists that are mapped to the same list are related by what they are mapped to. -/
theorem forall₂_of_map_eq {α β γ : Type} {f : α → γ} {g : β → γ} {first : List α}
    {second : List β} (same : second.map g = first.map f) :
    List.Forall₂ (fun a b => g b = f a) first second := by
  induction first generalizing second with
  | nil =>
    rw [List.map_eq_nil_iff.1 same]
    exact .nil
  | cons a rest ih =>
    obtain ⟨b, others, rfl, here, later⟩ := List.map_eq_cons_iff.1 same
    exact .cons here (ih later)

/-- Maps of one list are related if they are so at each item. -/
theorem forall₂_map_map {f : γ → α} {g : γ → β} {items : List γ}
    (each : ∀ item ∈ items, related (f item) (g item)) :
    List.Forall₂ related (items.map f) (items.map g) :=
  List.forall₂_map_left_iff.2 (List.forall₂_map_right_iff.2 (List.forall₂_same.2 each))

/-- Where every item stems from an item of another list, and no two of them from the same one, the
items they stem from are among those of the other list. -/
theorem exists_subperm_forall₂ (stem : ∀ b ∈ second, ∃ a ∈ first, related a b)
    (apart : second.Pairwise fun b later => ∀ a, related a b → ¬ related a later) :
    ∃ chosen : List α, chosen.Subperm first ∧ List.Forall₂ related chosen second := by
  suffices general : ∃ chosen : List α, chosen.Nodup ∧ chosen ⊆ first ∧
      List.Forall₂ related chosen second by
    obtain ⟨chosen, distinct, inside, each⟩ := general
    exact ⟨chosen, distinct.subperm inside, each⟩
  induction second with
  | nil => exact ⟨[], List.nodup_nil, List.nil_subset _, .nil⟩
  | cons b rest ih =>
    rw [List.pairwise_cons] at apart
    obtain ⟨a, inside, here⟩ := stem b (List.mem_cons_self ..)
    obtain ⟨chosen, distinct, among, each⟩ :=
      ih (fun other member => stem other (List.mem_cons_of_mem _ member)) apart.2
    have fresh : a ∉ chosen := by
      intro member
      obtain ⟨later, isLater, also⟩ := exists_right_of_forall₂ each member
      exact apart.1 later isLater a here also
    exact ⟨a :: chosen, List.nodup_cons.2 ⟨fresh, distinct⟩, List.cons_subset.2 ⟨inside, among⟩,
      .cons here each⟩

end Related

end StoryWorld

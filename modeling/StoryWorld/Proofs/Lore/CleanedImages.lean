import Mathlib.Data.List.Forall2
import StoryWorld.Lore.Export
import StoryWorld.Proofs.Table
import StoryWorld.Proofs.Text.Trimming

/-!
# Cleaning images

Images are given under keys, each with one address or with a list of them. Cleaning keeps the keys
that have an address which is not blank, in order, and under each the list of these addresses,
trimmed (`Images.cleaned_exact`). What has been trimmed has no blanks left at its ends, so cleaning
images that have been cleaned changes nothing (`Images.cleaned_cleaned`).
-/

set_option autoImplicit false

namespace StoryWorld

/-- A text is trimmed away altogether just if it is blank. -/
theorem Text.trimmed_eq_empty_iff {text : String} :
    Text.trimmed text = "" ↔ Text.Blank text.toList := by
  rw [← Text.trim_eq_nil_iff, Text.trimmed, ← String.toList_inj, String.toList_ofList]
  rfl

namespace ImageUrls

/-- The addresses that are not blank, as they are given. -/
def written (urls : ImageUrls) : List String :=
  urls.toList.filter fun url => decide ¬ Text.Blank url.toList

/-- Some address is not blank. -/
def IsShown (urls : ImageUrls) : Prop := ∃ url ∈ urls.toList, ¬ Text.Blank url.toList

instance (urls : ImageUrls) : Decidable urls.IsShown :=
  inferInstanceAs (Decidable (∃ url ∈ urls.toList, _))

/-- What is kept is a list of the addresses that are not blank, in order, each without the blanks at
its ends. -/
def CleansTo (urls kept : ImageUrls) : Prop :=
  ∃ addresses, kept = .many addresses ∧
    List.Forall₂ (fun url address : String => Text.TrimsTo url.toList address.toList)
      urls.written addresses

variable (urls : ImageUrls)

/-- It makes no difference whether blank addresses are left out before or after trimming. -/
theorem cleaned_eq : urls.cleaned = urls.written.map Text.trimmed := by
  rw [cleaned, written, List.filter_map]
  refine congrArg _ (List.filter_congr fun url _ => decide_eq_decide.2 ?_)
  exact not_congr Text.trimmed_eq_empty_iff

theorem cleaned_ne_nil_iff : urls.cleaned ≠ [] ↔ urls.IsShown := by
  simp only [cleaned_eq, ne_eq, List.map_eq_nil_iff, written, List.filter_eq_nil_iff, IsShown,
    decide_eq_true_eq, not_forall, not_not, exists_prop]

theorem cleansTo_cleaned : urls.CleansTo (.many urls.cleaned) := by
  refine ⟨urls.cleaned, rfl, ?_⟩
  rw [cleaned_eq, List.forall₂_map_right_iff, List.forall₂_same]
  intro url _
  rw [Text.trimsTo_iff_eq, Text.trimmed, String.toList_ofList]

/-- The addresses that are left are trimmed and not blank. -/
theorem cleaned_many_cleaned : (ImageUrls.many urls.cleaned).cleaned = urls.cleaned := by
  have each : ∀ url ∈ urls.cleaned, Text.trimmed url = url := by
    intro url member
    obtain ⟨given, -, rfl⟩ := List.mem_map.1 (List.mem_filter.1 member).1
    exact Text.trimmed_trimmed given
  have kept : (urls.cleaned.map Text.trimmed) = urls.cleaned := by
    rw [List.map_congr_left each, List.map_id']
  change (urls.cleaned.map Text.trimmed).filter _ = _
  rw [kept]
  exact List.filter_eq_self.2 fun url member => (List.mem_filter.1 member).2

end ImageUrls

namespace Images

/-- Cleaning keeps the entries that have an address which is not blank, and cleans each of them. -/
theorem entries_cleaned (images : Images) :
    images.cleaned.entries =
      (images.entries.filter fun entry => decide entry.2.IsShown).map fun entry =>
        (entry.1, .many entry.2.cleaned) := by
  rw [← List.filterMap_eq_map, List.filterMap_filter]
  refine List.filterMap_congr fun entry _ => ?_
  by_cases shown : entry.2.IsShown
  · simp [shown, entry.2.cleaned_ne_nil_iff.2 shown]
  · have nothing : entry.2.cleaned = [] := not_not.1 fun some =>
      shown (entry.2.cleaned_ne_nil_iff.1 some)
    simp [shown, nothing]

/-- Cleaning twice is cleaning once. -/
theorem cleaned_cleaned (images : Images) : images.cleaned.cleaned = images.cleaned := by
  refine Table.ext_entries ?_
  have kept : images.cleaned.entries.filter (fun entry => decide entry.2.IsShown) =
      images.cleaned.entries := by
    refine List.filter_eq_self.2 fun entry member => decide_eq_true ?_
    rw [entries_cleaned] at member
    obtain ⟨given, chosen, rfl⟩ := List.mem_map.1 member
    rw [← ImageUrls.cleaned_ne_nil_iff, ImageUrls.cleaned_many_cleaned,
      ImageUrls.cleaned_ne_nil_iff]
    exact of_decide_eq_true (List.mem_filter.1 chosen).2
  rw [entries_cleaned images.cleaned, kept, entries_cleaned, List.map_map]
  refine List.map_congr_left fun entry _ => ?_
  rw [Function.comp_apply, ImageUrls.cleaned_many_cleaned]

/-- **Cleaning images is exact**, whatever the images are: the keys that have an address which is
not blank are kept, in order and no others, each with the list of its addresses that are not blank,
trimmed and in order. Cleaning once more changes nothing. -/
theorem cleaned_exact (images : Images) :
    List.Forall₂ (fun entry kept => kept.1 = entry.1 ∧ entry.2.CleansTo kept.2)
        (images.entries.filter fun entry => decide entry.2.IsShown) images.cleaned.entries ∧
      images.cleaned.cleaned = images.cleaned := by
  refine ⟨?_, images.cleaned_cleaned⟩
  rw [entries_cleaned, List.forall₂_map_right_iff, List.forall₂_same]
  intro entry _
  exact ⟨rfl, entry.2.cleansTo_cleaned⟩

/-- Blanks of any sort are trimmed, and a key with blank addresses only is dropped. -/
example :
    Images.cleaned
        (.ofList [("day", .one "\u00a0day 1.png\u3000"), ("dusk", .many ["", " \t"]),
          ("night", .many ["\u2028", " a.png", "a.png"])]) =
      .ofList [("day", .many ["day 1.png"]), ("night", .many ["a.png", "a.png"])] := by
  decide +kernel

end Images

end StoryWorld

import Mathlib.Data.List.Induction
import StoryWorld.Proofs.Lore.Links

/-!
# Which mention comes first

The members of a world are gone through in order, and each mentions others; of all mentions of a
pair only the first makes a link (`linksOnce`). Where each member has mentions of its own, which no
earlier member makes, and all its other mentions are of pairs that earlier members have linked, the
links are the mentions that the members have of their own (`linksOnce_flatMap`). In any case a link
is the first mention of its pair (`find?_of_mem_linksOnce`), made by the first member that mentions
it (`mem_linksOnce_of_mentioned`).

What is made in this way is grouped: it comes member by member, and what one member makes is found
among it (`filter_flatMap_of_mem`). Leaving items out does not change that
(`flatMap_filter_of_sublist`).
-/

set_option autoImplicit false

namespace StoryWorld

/-! ## Links one after another -/

/-- Later mentions are followed with what the earlier ones have linked in mind. -/
theorem linksOnce_append (kept links more : List Link) :
    linksOnce kept (links ++ more) =
      linksOnce kept links ++ linksOnce (kept ++ linksOnce kept links) more := by
  induction links generalizing kept with
  | nil => rw [List.nil_append, linksOnce, List.nil_append, List.append_nil]
  | cons link rest ih =>
    rw [List.cons_append, linksOnce, linksOnce]
    split
    · exact ih kept
    · rw [ih, List.cons_append, List.append_assoc, List.singleton_append]

/-- A link that is kept is the first one to join its pair. -/
theorem find?_of_mem_linksOnce {kept links : List Link} {link : Link}
    (member : link ∈ linksOnce kept links) :
    links.find? (fun other => decide (other.Joins link.source link.target)) = some link := by
  induction links generalizing kept with
  | nil => cases member
  | cons first rest ih =>
    unfold linksOnce at member
    split at member
    · rename_i skipped
      obtain ⟨differ, fresh⟩ := fresh_of_mem_linksOnce member
      have apart : ¬ first.Joins link.source link.target := by
        intro joins
        rcases skipped with same | ⟨old, known, joined⟩
        · rcases joins with ⟨fromHere, toThere⟩ | ⟨fromThere, toHere⟩
          · exact differ (toThere.symm.trans (same.trans fromHere))
          · exact differ (fromThere.symm.trans (same.symm.trans toHere))
        · exact fresh old known (joins.trans joined)
      rw [List.find?_cons_of_neg (by simpa using apart), ih member]
    · rcases List.mem_cons.1 member with rfl | later
      · exact List.find?_cons_of_pos (decide_eq_true (Or.inl ⟨rfl, rfl⟩))
      · have apart := (fresh_of_mem_linksOnce later).2 first (by simp)
        rw [List.find?_cons_of_neg (by simpa using apart), ih later]

/-- A link whose pair is among the first mentions comes of one of these. -/
theorem mem_linksOnce_of_mentioned {first rest : List Link} {link other : Link}
    (member : link ∈ linksOnce [] (first ++ rest)) (mentioned : other ∈ first)
    (same : link.Joins other.source other.target) : link ∈ linksOnce [] first := by
  rw [linksOnce_append, List.nil_append] at member
  rcases List.mem_append.1 member with early | late
  · exact early
  · exfalso
    obtain ⟨differ, fresh⟩ := fresh_of_mem_linksOnce late
    have apart : other.target ≠ other.source := by
      rcases same with ⟨fromHere, toThere⟩ | ⟨fromThere, toHere⟩
      · rwa [← fromHere, ← toThere]
      · rw [← fromThere, ← toHere]
        exact differ.symm
    obtain ⟨one, made, joins⟩ := joined_of_mem [] mentioned apart
    refine fresh one made ?_
    rcases same with ⟨fromHere, toThere⟩ | ⟨fromThere, toHere⟩
    · rwa [fromHere, toThere]
    · rw [fromThere, toHere]
      exact joins.symm

/-- What is found first is found first among what is selected with it. -/
theorem find?_filter_of_find? {α : Type} {test keep : α → Bool} {items : List α} {item : α}
    (found : items.find? test = some item) (kept : keep item = true) :
    (items.filter keep).find? test = some item := by
  obtain ⟨passes, before, after, split, none⟩ := List.find?_eq_some_iff_append.1 found
  rw [List.find?_filter, List.find?_eq_some_iff_append]
  refine ⟨decide_eq_true ⟨kept, passes⟩, before, after, split, fun other inside => ?_⟩
  have fails : test other = false := by simpa using none other inside
  simp [fails]

/-! ## Mentions of one's own -/

section Own

variable {ι ν : Type} {link : ι → Link}

/-- The mentions of one member: those of its own make links, and the others come too late. -/
theorem linksOnce_filterMap {kept : List Link} {items : List ι} {mention : ι → Option Link}
    {own : ι → Bool}
    (made : ∀ item ∈ items, own item = true → mention item = some (link item) ∧
      (link item).target ≠ (link item).source)
    (late : ∀ item ∈ items, own item = false → ∀ mentioned, mention item = some mentioned →
      ∃ old ∈ kept, old.Joins mentioned.source mentioned.target)
    (apart : (kept ++ (items.filter own).map link).Pairwise fun old new =>
      ¬ old.Joins new.source new.target) :
    linksOnce kept (items.filterMap mention) = (items.filter own).map link := by
  induction items generalizing kept with
  | nil => rfl
  | cons item rest ih =>
    have made' := fun other inside => made other (List.mem_cons_of_mem item inside)
    have late' := fun other inside => late other (List.mem_cons_of_mem item inside)
    cases first : own item with
    | false =>
      rw [List.filter_cons_of_neg (by simp [first])] at apart ⊢
      cases told : mention item with
      | none => rw [List.filterMap_cons_none told, ih made' late' apart]
      | some mentioned =>
        have known := late item (List.mem_cons_self ..) first mentioned told
        rw [List.filterMap_cons_some told, linksOnce, if_pos (Or.inr known),
          ih made' late' apart]
    | true =>
      obtain ⟨told, differ⟩ := made item (List.mem_cons_self ..) first
      rw [List.filter_cons_of_pos first, List.map_cons] at apart ⊢
      have fresh : ¬ ∃ old ∈ kept, old.Joins (link item).source (link item).target := by
        rintro ⟨old, inside, joins⟩
        exact (List.pairwise_append.1 apart).2.2 old inside _ (List.mem_cons_self ..) joins
      have later : ∀ other ∈ rest, own other = false → ∀ mentioned,
          mention other = some mentioned →
            ∃ old ∈ kept ++ [link item], old.Joins mentioned.source mentioned.target := by
        intro other inside notOwn mentioned tells
        obtain ⟨old, known, joins⟩ := late' other inside notOwn mentioned tells
        exact ⟨old, List.mem_append_left _ known, joins⟩
      rw [List.filterMap_cons_some told, linksOnce, if_neg (not_or.2 ⟨differ, fresh⟩),
        ih made' later (by simpa using apart)]

/-- **Each pair is linked by the member whose own it is.** All other mentions come too late, if an
earlier member has linked their pairs. -/
theorem linksOnce_flatMap {members : List ν} {rows : ν → List ι}
    {mention : ν → ι → Option Link} {own : ν → ι → Bool}
    (made : ∀ member ∈ members, ∀ item ∈ rows member, own member item = true →
      mention member item = some (link item) ∧ (link item).target ≠ (link item).source)
    (late : ∀ before member after, members = before ++ member :: after →
      ∀ item ∈ rows member, own member item = false →
        ∀ mentioned, mention member item = some mentioned →
          ∃ old ∈ before.flatMap fun earlier => ((rows earlier).filter (own earlier)).map link,
            old.Joins mentioned.source mentioned.target)
    (apart : (members.flatMap fun member =>
        ((rows member).filter (own member)).map link).Pairwise fun old new =>
      ¬ old.Joins new.source new.target) :
    linksOnce [] (members.flatMap fun member => (rows member).filterMap (mention member)) =
      members.flatMap fun member => ((rows member).filter (own member)).map link := by
  -- The members are gone through from the last one back, so that what is kept is known.
  induction members using List.reverseRecOn with
  | nil => rfl
  | append_singleton earlier member ih =>
    rw [List.flatMap_append, List.flatMap_singleton] at apart ⊢
    have before := ih (fun other inside => made other (List.mem_append_left _ inside))
      (fun before other after same => late before other (after ++ [member]) (by simp [same]))
      (List.pairwise_append.1 apart).1
    have here := linksOnce_filterMap (made member (by simp)) (late earlier member [] rfl) apart
    rw [List.flatMap_append, List.flatMap_singleton, linksOnce_append, before, List.nil_append,
      here]

end Own

/-! ## Groups in order -/

/-- What is made member by member, and then has items left out, still comes member by member. -/
theorem flatMap_filter_of_sublist {α β ν κ : Type} [DecidableEq κ] {make : α → β} (key : β → κ)
    {name : ν → κ} {members : List ν} (distinct : (members.map name).Nodup) {rows : ν → List β}
    (own : ∀ member ∈ members, ∀ item ∈ rows member, key item = name member) {items : List α}
    (among : (items.map make).Sublist (members.flatMap rows)) :
    (members.flatMap fun member =>
      items.filter fun item => decide (key (make item) = name member)) = items := by
  induction members generalizing items with
  | nil => rw [List.map_eq_nil_iff.1 (List.sublist_nil.1 among), List.flatMap_nil]
  | cons member rest ih =>
    rw [List.map_cons, List.nodup_cons] at distinct
    obtain ⟨made, madeLater, split, inFirst, inRest⟩ := List.sublist_append_iff.1 among
    obtain ⟨first, others, rfl, rfl, rfl⟩ := List.map_eq_append_iff.1 split
    have isFirst : ∀ item ∈ first, key (make item) = name member := fun item inside =>
      own member (List.mem_cons_self ..) _ (inFirst.subset (List.mem_map_of_mem inside))
    have isOther : ∀ item ∈ others, key (make item) ∈ rest.map name := by
      intro item inside
      obtain ⟨other, listed, among⟩ :=
        List.mem_flatMap.1 (inRest.subset (List.mem_map_of_mem inside))
      rw [own other (List.mem_cons_of_mem _ listed) _ among]
      exact List.mem_map_of_mem listed
    have here : (first ++ others).filter (fun item => decide (key (make item) = name member)) =
        first := by
      rw [List.filter_append, List.filter_eq_self.2, List.filter_eq_nil_iff.2, List.append_nil]
      · intro item inside same
        exact distinct.1 (of_decide_eq_true same ▸ isOther item inside)
      · exact fun item inside => decide_eq_true (isFirst item inside)
    have later : ∀ other ∈ rest,
        (first ++ others).filter (fun item => decide (key (make item) = name other)) =
          others.filter fun item => decide (key (make item) = name other) := by
      intro other listed
      rw [List.filter_append, List.filter_eq_nil_iff.2, List.nil_append]
      intro item inside same
      rw [decide_eq_true_eq, isFirst item inside] at same
      exact distinct.1 (same ▸ List.mem_map_of_mem listed)
    rw [List.flatMap_cons, here, List.flatMap_congr later,
      ih distinct.2 (fun other listed => own other (List.mem_cons_of_mem _ listed)) inRest]

/-- What is made member by member is found again by the name of the member. -/
theorem filter_flatMap_of_mem {β ν κ : Type} [DecidableEq κ] (key : β → κ) {name : ν → κ}
    {members : List ν} (distinct : (members.map name).Nodup) {rows : ν → List β}
    (own : ∀ member ∈ members, ∀ item ∈ rows member, key item = name member) {member : ν}
    (inside : member ∈ members) :
    (members.flatMap rows).filter (fun item => decide (key item = name member)) = rows member := by
  induction members with
  | nil => cases inside
  | cons first rest ih =>
    rw [List.map_cons, List.nodup_cons] at distinct
    have own' := fun other listed => own other (List.mem_cons_of_mem first listed)
    rw [List.flatMap_cons, List.filter_append]
    rcases List.mem_cons.1 inside with rfl | later
    · have here := List.filter_eq_self.2 fun item listed =>
        decide_eq_true (own member (List.mem_cons_self ..) item listed)
      have elsewhere : (rest.flatMap rows).filter (fun item => decide (key item = name member)) =
          [] := by
        refine List.filter_eq_nil_iff.2 fun item listed same => distinct.1 ?_
        obtain ⟨other, isOther, among⟩ := List.mem_flatMap.1 listed
        rw [← of_decide_eq_true same, own' other isOther item among]
        exact List.mem_map_of_mem isOther
      rw [here, elsewhere, List.append_nil]
    · have elsewhere : (rows first).filter (fun item => decide (key item = name member)) = [] := by
        refine List.filter_eq_nil_iff.2 fun item listed same => distinct.1 ?_
        rw [← own first (List.mem_cons_self ..) item listed, of_decide_eq_true same]
        exact List.mem_map_of_mem later
      rw [elsewhere, List.nil_append, ih distinct.2 own' later]

end StoryWorld

import Mathlib.Data.List.Induction
import Mathlib.Data.List.Nodup
import Mathlib.Data.List.Perm.Basic
import Mathlib.Data.List.Perm.Subperm
import StoryWorld.Table

/-!
# Tables by what is found in them

A table is known by the value found under each key. Keys and values are described through
`Table.get?` (`mem_keys_iff`, `mem_values_iff`), and so is the table bound from pairs: under a key
stands the last value that was bound to it (`get?_ofList`). Pairs that repeat no key are the entries
of their table as they stand (`entries_ofList`). A table in which only free keys have been bound
`Extends` the table that it was.
-/

set_option autoImplicit false

namespace StoryWorld

/-! ## Lists without repeats -/

section Distinct

variable {α : Type} [DecidableEq α]

/-- One more item is listed if it is not listed yet. -/
theorem distinct_append_singleton (items : List α) (item : α) :
    distinct (items ++ [item]) =
      if item ∈ distinct items then distinct items else distinct items ++ [item] := by
  unfold distinct
  rw [List.foldl_append]
  rfl

theorem mem_distinct {items : List α} {item : α} : item ∈ distinct items ↔ item ∈ items := by
  induction items using List.reverseRecOn with
  | nil => exact Iff.rfl
  | append_singleton items last ih =>
    rw [distinct_append_singleton, List.mem_append, List.mem_singleton]
    split
    · rename_i listed
      constructor
      · exact fun member => Or.inl (ih.1 member)
      · rintro (member | rfl)
        · exact ih.2 member
        · exact listed
    · rw [List.mem_append, List.mem_singleton, ih]

theorem nodup_distinct (items : List α) : (distinct items).Nodup := by
  induction items using List.reverseRecOn with
  | nil => exact List.nodup_nil
  | append_singleton items last ih =>
    rw [distinct_append_singleton]
    split
    · exact ih
    · rename_i fresh
      refine List.nodup_append.2 ⟨ih, by simp, ?_⟩
      intro item member other isLast same
      rw [same, List.mem_singleton.1 isLast] at member
      exact fresh member

/-- A list that repeats nothing stays as it is. -/
theorem distinct_eq_self {items : List α} (nodup : items.Nodup) : distinct items = items := by
  induction items using List.reverseRecOn with
  | nil => rfl
  | append_singleton items last ih =>
    obtain ⟨before, -, apart⟩ := List.nodup_append.1 nodup
    have fresh : last ∉ items := fun member => apart last member last (by simp) rfl
    rw [distinct_append_singleton, ih before, if_neg fresh]

/-- It makes no difference whether items are selected before or after repeats are left out. -/
theorem distinct_filter (keep : α → Bool) (items : List α) :
    distinct (items.filter keep) = (distinct items).filter keep := by
  induction items using List.reverseRecOn with
  | nil => rfl
  | append_singleton items last ih =>
    rw [List.filter_append, distinct_append_singleton]
    by_cases kept : keep last = true
    · have same : last ∈ (distinct items).filter keep ↔ last ∈ distinct items := by
        rw [List.mem_filter, and_iff_left kept]
      rw [List.filter_cons_of_pos kept, List.filter_nil, distinct_append_singleton, ih]
      simp only [same]
      split
      · rfl
      · rw [List.filter_append, List.filter_cons_of_pos kept, List.filter_nil]
    · rw [List.filter_cons_of_neg kept, List.filter_nil, List.append_nil, ih]
      split
      · rfl
      · rw [List.filter_append, List.filter_cons_of_neg kept, List.filter_nil, List.append_nil]

/-- Nothing is left out just where nothing is repeated. -/
theorem length_distinct_iff {items : List α} :
    (distinct items).length = items.length ↔ items.Nodup := by
  constructor
  · intro whole
    have inside : (distinct items).Subperm items :=
      (nodup_distinct items).subperm fun _ => mem_distinct.1
    exact (inside.perm_of_length_le (Nat.le_of_eq whole.symm)).nodup_iff.1 (nodup_distinct items)
  · intro nodup
    rw [distinct_eq_self nodup]

end Distinct

namespace Table

variable {κ α : Type} [DecidableEq κ]

theorem mem_keys_iff {table : Table κ α} {key : κ} :
    key ∈ table.keys ↔ ∃ value, table.get? key = some value := by
  constructor
  · intro member
    cases found : table.get? key with
    | none => exact absurd member (get?_eq_none_iff.1 found)
    | some value => exact ⟨value, rfl⟩
  · rintro ⟨value, found⟩
    exact List.mem_map_of_mem (get?_eq_some_iff.1 found)

theorem mem_values_iff {table : Table κ α} {value : α} :
    value ∈ table.values ↔ ∃ key, table.get? key = some value := by
  constructor
  · intro member
    obtain ⟨⟨key, _⟩, inside, rfl⟩ := List.mem_map.1 member
    exact ⟨key, get?_eq_some_iff.2 inside⟩
  · rintro ⟨key, found⟩
    exact List.mem_map_of_mem (f := Prod.snd) (get?_eq_some_iff.1 found)

theorem contains_iff {table : Table κ α} {key : κ} :
    table.contains key = true ↔ key ∈ table.keys :=
  decide_eq_true_iff

/-- Binding a bound key again binds no further key. -/
theorem mem_keys_insert_of_mem {table : Table κ α} {key other : κ} {value : α}
    (bound : key ∈ table.keys) : other ∈ (table.insert key value).keys ↔ other ∈ table.keys := by
  rw [keys_insert, if_pos bound]

/-- Selecting by key leaves the keys that are selected. -/
theorem mem_keys_filter {table : Table κ α} {keep : κ → Bool} {key : κ} :
    key ∈ (table.filter fun key _ => keep key).keys ↔ key ∈ table.keys ∧ keep key = true := by
  simp only [mem_keys_iff, get?_filter, Option.filter_eq_some_iff]
  constructor
  · rintro ⟨value, found, kept⟩
    exact ⟨⟨value, found⟩, kept⟩
  · rintro ⟨⟨value, found⟩, kept⟩
    exact ⟨value, found, kept⟩

omit [DecidableEq κ] in
theorem keys_filter_eq (keep : κ → Bool) (table : Table κ α) :
    (table.filter fun key _ => keep key).keys = table.keys.filter keep :=
  (List.filter_map ..).symm

omit [DecidableEq κ] in
/-- A table is determined by its entries. -/
theorem ext_entries {table other : Table κ α} (same : table.entries = other.entries) :
    table = other := by
  cases table
  cases other
  cases same
  rfl

/-- Where the value of each key is known, the entries are the keys with these values. -/
theorem entries_eq_map {table : Table κ α} {value : κ → α}
    (found : ∀ key ∈ table.keys, table.get? key = some (value key)) :
    table.entries = table.keys.map fun key => (key, value key) := by
  rw [keys, List.map_map]
  refine (List.map_id' table.entries).symm.trans (List.map_congr_left fun entry member => ?_)
  have here : table.get? entry.1 = some entry.2 := get?_eq_some_iff.2 member
  have known := found entry.1 (List.mem_map_of_mem member)
  rw [here] at known
  exact Prod.ext rfl (Option.some.inj known)

theorem entries_insert_of_not_mem {table : Table κ α} {key : κ} {value : α}
    (fresh : key ∉ table.keys) :
    (table.insert key value).entries = table.entries ++ [(key, value)] := by
  rw [insert, dif_neg fresh, append]

/-- Binding pairs that repeat no key, and none that is bound, appends them. -/
theorem entries_foldl_insert {pairs : List (κ × α)} (distinct : (pairs.map Prod.fst).Nodup)
    {table : Table κ α} (fresh : ∀ pair ∈ pairs, pair.1 ∉ table.keys) :
    (pairs.foldl (fun table pair => table.insert pair.1 pair.2) table).entries =
      table.entries ++ pairs := by
  induction pairs generalizing table with
  | nil => simp
  | cons pair rest ih =>
    rw [List.map_cons, List.nodup_cons] at distinct
    have here := fresh pair (List.mem_cons_self ..)
    rw [List.foldl_cons, ih distinct.2, entries_insert_of_not_mem here, List.append_assoc]
    · rfl
    · intro other member bound
      rcases mem_keys_insert.1 bound with same | bound
      · exact distinct.1 (same ▸ List.mem_map_of_mem member)
      · exact fresh other (List.mem_cons_of_mem _ member) bound

theorem entries_ofList {pairs : List (κ × α)} (distinct : (pairs.map Prod.fst).Nodup) :
    (ofList pairs).entries = pairs :=
  (entries_foldl_insert distinct (by simp)).trans (List.nil_append _)

@[simp] theorem ofList_entries (table : Table κ α) : ofList table.entries = table :=
  ext_entries (entries_ofList table.keys_nodup)

/-- Under a key stands the last value bound to it. -/
theorem get?_ofList (pairs : List (κ × α)) (key : κ) :
    (ofList pairs).get? key =
      (pairs.reverse.find? fun pair => decide (pair.1 = key)).map Prod.snd := by
  suffices general : ∀ table : Table κ α,
      (pairs.foldl (fun table pair => table.insert pair.1 pair.2) table).get? key =
        ((pairs.reverse.find? fun pair => decide (pair.1 = key)).map Prod.snd).or
          (table.get? key) by
    rw [ofList, general]
    simp [get?, empty]
  induction pairs with
  | nil => intro table; simp
  | cons pair rest ih =>
    intro table
    rw [List.foldl_cons, ih, List.reverse_cons, List.find?_append, Option.map_or, Option.or_assoc,
      get?_insert]
    by_cases here : key = pair.1
    · simp [here]
    · have elsewhere : ¬ pair.1 = key := fun same => here same.symm
      simp [here, elsewhere]

/-- Where the items that tell something of a key are those that pass a test, the last of them tells
what stands under it. -/
theorem get?_ofList_filterMap {ι : Type*} {items : List ι} {tell : ι → Option (κ × α)} {key : κ}
    {test : ι → Bool} {value : ι → α} (told : ∀ item, (tell item).filter
      (fun pair => decide (pair.1 = key)) = if test item then some (key, value item) else none) :
    (ofList (items.filterMap tell)).get? key = (items.filter test).getLast?.map value := by
  have mine : (items.filterMap tell).filter (fun pair => decide (pair.1 = key)) =
      (items.filter test).map fun item => (key, value item) := by
    rw [List.filter_filterMap, ← List.filterMap_eq_map, List.filterMap_filter]
    exact List.filterMap_congr fun item _ => told item
  rw [get?_ofList, ← List.getLast?_filter, mine, List.getLast?_map, Option.map_map]
  rfl

/-- A pair that is followed by none of its key is the one that is found. -/
theorem get?_ofList_append {before after : List (κ × α)} {key : κ} (value : α)
    (last : ∀ pair ∈ after, pair.1 ≠ key) :
    (ofList (before ++ (key, value) :: after)).get? key = some value := by
  have none : after.reverse.find? (fun pair => decide (pair.1 = key)) = none := by
    rw [List.find?_eq_none]
    intro pair member same
    exact last pair (List.mem_reverse.1 member) (of_decide_eq_true same)
  rw [get?_ofList, List.reverse_append, List.reverse_cons, List.append_assoc, List.find?_append,
    none]
  simp

/-- What is found in a table of pairs is one of them. -/
theorem mem_of_get?_ofList {pairs : List (κ × α)} {key : κ} {value : α}
    (found : (ofList pairs).get? key = some value) : (key, value) ∈ pairs := by
  rw [get?_ofList] at found
  obtain ⟨⟨other, _⟩, last, rfl⟩ := Option.map_eq_some_iff.1 found
  have same : other = key := by simpa using List.find?_some last
  subst same
  exact List.mem_reverse.1 (List.mem_of_find?_eq_some last)

theorem mem_keys_ofList {pairs : List (κ × α)} {key : κ} :
    key ∈ (ofList pairs).keys ↔ key ∈ pairs.map Prod.fst := by
  constructor
  · intro member
    obtain ⟨value, found⟩ := mem_keys_iff.1 member
    exact List.mem_map_of_mem (f := Prod.fst) (mem_of_get?_ofList found)
  · intro member
    obtain ⟨pair, inside, same⟩ := List.mem_map.1 member
    refine mem_keys_iff.2 ?_
    rw [get?_ofList]
    cases last : pairs.reverse.find? fun pair => decide (pair.1 = key) with
    | some found => exact ⟨found.2, rfl⟩
    | none =>
      have absent := List.find?_eq_none.1 last pair (List.mem_reverse.2 inside)
      simp [same] at absent

/-- Where pairs give one value to each key, the table holds them all. -/
theorem get?_ofList_iff {pairs : List (κ × α)}
    (functional : ∀ key value other, (key, value) ∈ pairs → (key, other) ∈ pairs → value = other)
    {key : κ} {value : α} : (ofList pairs).get? key = some value ↔ (key, value) ∈ pairs := by
  refine ⟨mem_of_get?_ofList, fun member => ?_⟩
  obtain ⟨other, found⟩ := mem_keys_iff.1 (mem_keys_ofList.2 (List.mem_map_of_mem member))
  rw [found, functional key other value (mem_of_get?_ofList found) member]

section Named

variable {items : List α} {name : α → κ} (distinct : (items.map name).Nodup)

include distinct

/-- Items under names that repeat nothing are the entries of their table. -/
theorem entries_ofList_map :
    (ofList (items.map fun item => (name item, item))).entries =
      items.map fun item => (name item, item) := by
  have names : (items.map fun item => (name item, item)).map Prod.fst = items.map name := by
    simp [List.map_map, Function.comp_def]
  exact entries_ofList (names ▸ distinct)

/-- They are the values of their table, in their order. -/
theorem values_ofList_map :
    (ofList (items.map fun item => (name item, item))).values = items := by
  rw [values, entries_ofList_map distinct, List.map_map]
  exact List.map_id items

/-- In the table of items under their names, an item is found under its own name and no other. -/
theorem get?_ofList_map_iff {key : κ} {item : α} :
    (ofList (items.map fun item => (name item, item))).get? key = some item ↔
      item ∈ items ∧ name item = key := by
  rw [get?_eq_some_iff, entries_ofList_map distinct, List.mem_map]
  constructor
  · rintro ⟨other, member, same⟩
    cases same
    exact ⟨member, rfl⟩
  · rintro ⟨member, rfl⟩
    exact ⟨item, member, rfl⟩

end Named

/-! ## Tables in any order -/

/-- Two tables bind the same keys to the same values, in whatever order. -/
def Same (table other : Table κ α) : Prop := ∀ key, table.get? key = other.get? key

theorem same_of_get?_iff {table other : Table κ α}
    (found : ∀ key value, table.get? key = some value ↔ other.get? key = some value) :
    table.Same other :=
  fun key => Option.ext fun value => found key value

theorem Same.mem_keys_iff {table other : Table κ α} (same : table.Same other) {key : κ} :
    key ∈ table.keys ↔ key ∈ other.keys := by
  rw [Table.mem_keys_iff, Table.mem_keys_iff, same key]

theorem Same.size_eq {table other : Table κ α} (same : table.Same other) :
    table.size = other.size := by
  have keys : table.keys.Perm other.keys :=
    (List.perm_ext_iff_of_nodup table.keys_nodup other.keys_nodup).2 fun _ => same.mem_keys_iff
  have lengths := keys.length_eq
  rwa [Table.keys, Table.keys, List.length_map, List.length_map] at lengths

/-- Tables of one size are the same if every entry of the first is found in the second. -/
theorem same_of_entries {table other : Table κ α} (sizes : table.size = other.size)
    (found : ∀ entry ∈ table.entries, other.get? entry.1 = some entry.2) : table.Same other := by
  have inside : table.keys ⊆ other.keys := by
    intro key listed
    obtain ⟨entry, member, rfl⟩ := List.mem_map.1 listed
    exact mem_keys_iff.2 ⟨_, found entry member⟩
  have lengths : other.keys.length ≤ table.keys.length := by
    rw [keys, keys, List.length_map, List.length_map]
    exact Nat.le_of_eq sizes.symm
  have keys : table.keys.Perm other.keys :=
    (table.keys_nodup.subperm inside).perm_of_length_le lengths
  intro key
  cases here : table.get? key with
  | some value => exact (found _ (get?_eq_some_iff.1 here)).symm
  | none =>
    rw [get?_eq_none_iff, keys.mem_iff] at here
    exact (get?_eq_none_iff.2 here).symm

/-- Tables are the same just if they have the same entries, in any order. -/
theorem same_iff_perm {table other : Table κ α} :
    table.Same other ↔ table.entries.Perm other.entries := by
  have each (key : κ) (value : α) (one : Table κ α) :
      one.get? key = some value ↔ (key, value) ∈ one.entries := get?_eq_some_iff
  rw [List.perm_ext_iff_of_nodup (List.Nodup.of_map _ table.keys_nodup)
    (List.Nodup.of_map _ other.keys_nodup)]
  constructor
  · rintro same ⟨key, value⟩
    rw [← each, ← each, same key]
  · intro same
    refine same_of_get?_iff fun key value => ?_
    rw [each, each, same]

/-- A table is the same as one of its own entries just if it has no other keys. -/
theorem same_singleton_iff {table : Table κ α} {key : κ} {value : α}
    (found : table.get? key = some value) :
    table.Same (ofList [(key, value)]) ↔ ∀ other ∈ table.keys, other = key := by
  have single : (ofList [(key, value)]).keys = [key] := rfl
  constructor
  · intro same other listed
    rw [same.mem_keys_iff, single] at listed
    exact List.mem_singleton.1 listed
  · intro only other
    by_cases here : other = key
    · rw [here, found, get?_ofList]
      simp
    · have absent : other ∉ table.keys := fun listed => here (only other listed)
      have alsoAbsent : other ∉ (ofList [(key, value)]).keys := by
        rw [single]
        exact fun listed => here (List.mem_singleton.1 listed)
      rw [get?_eq_none_iff.2 absent, get?_eq_none_iff.2 alsoAbsent]

/-! ## Equal tables -/

/-- A table is determined by its keys in order and by what is found under each of them. -/
theorem ext_get? {table other : Table κ α} (keys : table.keys = other.keys)
    (same : table.Same other) : table = other := by
  have lengths : table.entries.length = other.entries.length := by
    simpa only [Table.keys, List.length_map] using congrArg List.length keys
  refine ext_entries (List.ext_getElem lengths fun index here there => ?_)
  have key : table.entries[index].1 = other.entries[index].1 := by
    have both := congrArg (fun keys : List κ => keys[index]?) keys
    simpa [Table.keys, here, there] using both
  have found : table.get? table.entries[index].1 = some table.entries[index].2 :=
    get?_eq_some_iff.2 (List.getElem_mem here)
  have others : other.get? other.entries[index].1 = some other.entries[index].2 :=
    get?_eq_some_iff.2 (List.getElem_mem there)
  rw [same, key, others] at found
  exact Prod.ext key (Option.some.inj found).symm

/-- Binding a key to the value it has already changes nothing. -/
theorem insert_of_get? {table : Table κ α} {key : κ} {value : α}
    (found : table.get? key = some value) : table.insert key value = table := by
  refine ext_get? ?_ fun other => ?_
  · rw [keys_insert, if_pos (mem_keys_iff.2 ⟨value, found⟩)]
  · rw [get?_insert]
    split
    · rename_i same
      rw [same, found]
    · rfl

/-- Of two values bound to a key one after the other the last one stays. -/
theorem insert_insert {table : Table κ α} {key : κ} {value other : α} :
    (table.insert key value).insert key other = table.insert key other := by
  refine ext_get? ?_ fun asked => ?_
  · rw [keys_insert, if_pos (mem_keys_insert.2 (Or.inl rfl)), keys_insert, keys_insert]
  · simp only [get?_insert]
    split <;> rfl

/-- Changing the value just bound to a key is binding the changed value. -/
theorem adjust_insert {table : Table κ α} {key : κ} {value : α} {f : α → α} :
    (table.insert key value).adjust key f = table.insert key (f value) := by
  refine ext_get? ?_ fun other => ?_
  · rw [keys_adjust, keys_insert, keys_insert]
  · simp only [get?_adjust, get?_insert]
    split <;> rfl

omit [DecidableEq κ] in
/-- Tests that agree on the keys of a table select the same entries. -/
theorem filter_congr_keys {table : Table κ α} {keep other : κ → Bool}
    (agree : ∀ key ∈ table.keys, keep key = other key) :
    (table.filter fun key _ => keep key) = table.filter fun key _ => other key :=
  ext_entries (List.filter_congr fun entry member => agree entry.1 (List.mem_map_of_mem member))

omit [DecidableEq κ] in
/-- A test that all keys pass selects all entries. -/
theorem filter_keys_eq_self {table : Table κ α} {keep : κ → Bool}
    (all : ∀ key ∈ table.keys, keep key = true) : (table.filter fun key _ => keep key) = table :=
  ext_entries (List.filter_eq_self.2 fun entry member => all entry.1 (List.mem_map_of_mem member))

/-- It makes no difference whether pairs are selected by key before or after they are bound. -/
theorem ofList_filter (keep : κ → Bool) (pairs : List (κ × α)) :
    ofList (pairs.filter fun pair => keep pair.1) =
      (ofList pairs).filter fun key _ => keep key := by
  refine ext_get? ?_ fun key => ?_
  · have selected : (pairs.filter fun pair => keep pair.1).map Prod.fst =
        (pairs.map Prod.fst).filter keep := (List.filter_map ..).symm
    rw [keys_ofList, keys_filter_eq, keys_ofList, selected, distinct_filter]
  · rw [get?_filter, get?_ofList, get?_ofList, ← List.filter_reverse, List.find?_filter]
    cases kept : keep key with
    | true =>
      have agree : (fun pair : κ × α =>
          decide (keep pair.1 = true ∧ decide (pair.1 = key) = true)) =
            fun pair => decide (pair.1 = key) := by
        funext pair
        by_cases same : pair.1 = key <;> simp [same, kept]
      rw [agree]
      cases pairs.reverse.find? fun pair => decide (pair.1 = key) <;> rfl
    | false =>
      have none : pairs.reverse.find?
          (fun pair => decide (keep pair.1 = true ∧ decide (pair.1 = key) = true)) = none := by
        refine List.find?_eq_none.2 fun pair _ found => ?_
        simp only [decide_eq_true_eq] at found
        rw [found.2, kept] at found
        cases found.1
      rw [none]
      cases pairs.reverse.find? fun pair => decide (pair.1 = key) <;> rfl

/-! ## Tables that only grow -/

/-- Binding a key only if it is free leaves the other bindings as they are. -/
theorem get?_insertNew_eq_or {table : Table κ α} {key other : κ} {value : α} :
    (table.insertNew key value).get? other =
      (table.get? other).or (if other = key then some value else none) := by
  rw [get?_insertNew]
  by_cases same : other = key
  · subst same
    cases found : table.get? other with
    | none => simp [get?_eq_none_iff.1 found]
    | some kept => simp [mem_keys_iff.2 ⟨kept, found⟩]
  · simp [same]

/-- A table has every binding of another. -/
def Extends (after before : Table κ α) : Prop :=
  ∀ key value, before.get? key = some value → after.get? key = some value

theorem Extends.refl (table : Table κ α) : table.Extends table := fun _ _ found => found

theorem Extends.trans {last after before : Table κ α} (later : last.Extends after)
    (sooner : after.Extends before) : last.Extends before :=
  fun key value found => later key value (sooner key value found)

/-- What is found first in one table and then elsewhere keeps the bindings of that table. -/
theorem extends_of_get?_eq_or {after before : Table κ α} {more : κ → Option α}
    (found : ∀ key, after.get? key = (before.get? key).or (more key)) : after.Extends before := by
  intro key value here
  rw [found, here, Option.some_or]

end Table

end StoryWorld

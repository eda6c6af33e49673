/-!
# Tables in order of insertion

A table binds each of its keys to one value and remembers the order in which the keys first came.
Binding a key again replaces its value and leaves the key where it stands, so the order of a table
is the order of first mention. That no key stands twice is part of the type.

Beside the operations stands what they do to the keys, in order, and to the value found under a key:
`keys_insert` and `get?_insert` for binding, `get?_insertNew` for the first binding only,
`get?_filter` for selecting, `keys_mapValues` for changing values in place.
-/

set_option autoImplicit false

namespace StoryWorld

/-- The items of a list without repeats, in order of first occurrence. -/
def distinct {α : Type} [DecidableEq α] (items : List α) : List α :=
  items.foldl (fun seen item => if item ∈ seen then seen else seen ++ [item]) []

/-- Keys with their values, in order of first mention. -/
structure Table (κ α : Type) where
  entries : List (κ × α)
  keys_nodup : (entries.map Prod.fst).Nodup
  deriving DecidableEq

namespace Table

variable {κ α β : Type}

/-- The table without entries. -/
def empty : Table κ α := ⟨[], by simp⟩

instance : Inhabited (Table κ α) := ⟨empty⟩

instance : EmptyCollection (Table κ α) := ⟨empty⟩

/-- The keys, in order of first mention. -/
def keys (table : Table κ α) : List κ := table.entries.map Prod.fst

/-- The values, in the order of their keys. -/
def values (table : Table κ α) : List α := table.entries.map Prod.snd

/-- How many keys are bound. -/
def size (table : Table κ α) : Nat := table.entries.length

/-- Whether no key is bound. -/
def isEmpty (table : Table κ α) : Bool := table.entries.isEmpty

/-- Changes every value in place, given its key. -/
def mapValues (f : κ → α → β) (table : Table κ α) : Table κ β :=
  ⟨table.entries.map fun entry => (entry.1, f entry.1 entry.2), by
    have same : (table.entries.map fun entry => (entry.1, f entry.1 entry.2)).map Prod.fst =
        table.entries.map Prod.fst := by simp [List.map_map, Function.comp_def]
    rw [same]
    exact table.keys_nodup⟩

/-- Keeps the entries that satisfy the test. -/
def filter (keep : κ → α → Bool) (table : Table κ α) : Table κ α :=
  ⟨table.entries.filter fun entry => keep entry.1 entry.2,
    (List.filter_sublist.map Prod.fst).nodup table.keys_nodup⟩

/-- Changes the values for which there is a new one and drops the others. -/
def filterMap (f : κ → α → Option β) (table : Table κ α) : Table κ β :=
  ⟨table.entries.filterMap fun entry => (f entry.1 entry.2).map fun value => (entry.1, value), by
    refine List.Sublist.nodup ?_ table.keys_nodup
    induction table.entries with
    | nil => simp
    | cons entry rest ih =>
      cases found : f entry.1 entry.2 with
      | none => simpa [found] using ih.cons entry.1
      | some value => simpa [found] using ih⟩

/-- Binds a key that is not bound, at the end. -/
def append (table : Table κ α) (key : κ) (value : α) (fresh : key ∉ table.keys) : Table κ α :=
  ⟨table.entries ++ [(key, value)], by
    rw [List.map_append, List.map_cons, List.map_nil, List.nodup_append]
    refine ⟨table.keys_nodup, by simp, ?_⟩
    intro other member last isLast same
    rw [List.mem_singleton] at isLast
    subst isLast same
    exact fresh member⟩

section Keyed

variable [DecidableEq κ]

/-- The value bound to a key. -/
def get? (table : Table κ α) (key : κ) : Option α :=
  (table.entries.find? fun entry => decide (entry.1 = key)).map Prod.snd

/-- Whether the key is bound. -/
def contains (table : Table κ α) (key : κ) : Bool := decide (key ∈ table.keys)

/-- Changes the value of one key in place, if it is bound. -/
def adjust (table : Table κ α) (key : κ) (f : α → α) : Table κ α :=
  table.mapValues fun other value => if other = key then f value else value

/-- Binds a key: in place if it is bound already, else at the end. -/
def insert (table : Table κ α) (key : κ) (value : α) : Table κ α :=
  if bound : key ∈ table.keys then table.adjust key fun _ => value
  else table.append key value bound

/-- Binds a key only if it is not bound yet. -/
def insertNew (table : Table κ α) (key : κ) (value : α) : Table κ α :=
  if bound : key ∈ table.keys then table else table.append key value bound

/-- Removes a key. -/
def erase (table : Table κ α) (key : κ) : Table κ α :=
  table.filter fun other _ => decide (other ≠ key)

/-- The pairs bound one after another: a repeated key keeps its first place and its last value. -/
def ofList (pairs : List (κ × α)) : Table κ α :=
  pairs.foldl (fun table pair => table.insert pair.1 pair.2) empty

end Keyed

/-! ## What each operation does to the keys -/

@[simp] theorem keys_empty : (empty : Table κ α).keys = [] := rfl

@[simp] theorem keys_mapValues (f : κ → α → β) (table : Table κ α) :
    (table.mapValues f).keys = table.keys := by
  simp [keys, mapValues, List.map_map, Function.comp_def]

@[simp] theorem keys_append (table : Table κ α) (key : κ) (value : α) (fresh : key ∉ table.keys) :
    (table.append key value fresh).keys = table.keys ++ [key] := by
  simp [keys, append]

section Keyed

variable [DecidableEq κ]

@[simp] theorem keys_adjust (table : Table κ α) (key : κ) (f : α → α) :
    (table.adjust key f).keys = table.keys :=
  keys_mapValues _ table

theorem keys_insert (table : Table κ α) (key : κ) (value : α) :
    (table.insert key value).keys =
      if key ∈ table.keys then table.keys else table.keys ++ [key] := by
  unfold insert
  split <;> simp

theorem mem_keys_insert {table : Table κ α} {key other : κ} {value : α} :
    other ∈ (table.insert key value).keys ↔ other = key ∨ other ∈ table.keys := by
  rw [keys_insert]
  split
  · constructor
    · exact Or.inr
    · rintro (rfl | member) <;> assumption
  · simp [or_comm]

/-- The keys of a table bound from pairs are the keys of the pairs without repeats. -/
theorem keys_ofList (pairs : List (κ × α)) :
    (ofList pairs).keys = distinct (pairs.map Prod.fst) := by
  suffices general : ∀ table : Table κ α,
      (pairs.foldl (fun table pair => table.insert pair.1 pair.2) table).keys =
        (pairs.map Prod.fst).foldl
          (fun seen item => if item ∈ seen then seen else seen ++ [item]) table.keys by
    exact general empty
  induction pairs with
  | nil => intro table; rfl
  | cons pair rest ih =>
    intro table
    rw [List.foldl_cons, ih, keys_insert, List.map_cons, List.foldl_cons]

/-! ## What is found under a key -/

theorem get?_eq_some_iff {table : Table κ α} {key : κ} {value : α} :
    table.get? key = some value ↔ (key, value) ∈ table.entries := by
  obtain ⟨entries, nodup⟩ := table
  simp only [get?]
  induction entries with
  | nil => simp
  | cons entry rest ih =>
    rw [List.map_cons, List.nodup_cons] at nodup
    rw [List.find?_cons]
    by_cases here : entry.1 = key
    · subst here
      simp only [decide_true, Option.map_some, Option.some.injEq, List.mem_cons]
      constructor
      · rintro rfl
        exact Or.inl rfl
      · rintro (same | member)
        · exact (congrArg Prod.snd same).symm
        · exact absurd (List.mem_map_of_mem member) nodup.1
    · simp only [here, decide_false, List.mem_cons]
      rw [ih nodup.2]
      constructor
      · exact Or.inr
      · rintro (same | member)
        · exact absurd (congrArg Prod.fst same).symm here
        · exact member

theorem get?_eq_none_iff {table : Table κ α} {key : κ} :
    table.get? key = none ↔ key ∉ table.keys := by
  simp only [get?, keys, Option.map_eq_none_iff, List.find?_eq_none, List.mem_map,
    decide_eq_true_eq]
  constructor
  · rintro none ⟨entry, member, same⟩
    exact none entry member same
  · intro absent entry member same
    exact absent ⟨entry, member, same⟩

theorem get?_mapValues {table : Table κ α} {f : κ → α → β} {key : κ} :
    (table.mapValues f).get? key = (table.get? key).map (f key) := by
  obtain ⟨entries, nodup⟩ := table
  simp only [get?, mapValues]
  clear nodup
  induction entries with
  | nil => rfl
  | cons entry rest ih =>
    rw [List.map_cons, List.find?_cons, List.find?_cons]
    by_cases here : entry.1 = key
    · simp [here]
    · simpa [here] using ih

theorem get?_adjust {table : Table κ α} {key other : κ} {f : α → α} :
    (table.adjust key f).get? other =
      if other = key then (table.get? other).map f else table.get? other := by
  rw [adjust, get?_mapValues]
  split <;> simp_all

theorem get?_append {table : Table κ α} {key other : κ} {value : α} {fresh : key ∉ table.keys} :
    (table.append key value fresh).get? other =
      if other = key then some value else table.get? other := by
  unfold get? append
  rw [List.find?_append]
  by_cases same : other = key
  · subst same
    have absent : table.entries.find? (fun entry => decide (entry.1 = other)) = none := by
      simpa only [get?, Option.map_eq_none_iff] using get?_eq_none_iff.2 fresh
    simp [absent]
  · have distinct : ¬ key = other := fun back => same back.symm
    simp [distinct, same]

theorem get?_insert {table : Table κ α} {key other : κ} {value : α} :
    (table.insert key value).get? other =
      if other = key then some value else table.get? other := by
  unfold insert
  split
  · rename_i bound
    rw [get?_adjust]
    by_cases same : other = key
    · subst same
      cases found : table.get? other with
      | none => exact absurd bound (get?_eq_none_iff.1 found)
      | some _ => simp
    · simp [same]
  · exact get?_append

theorem get?_insertNew {table : Table κ α} {key other : κ} {value : α} :
    (table.insertNew key value).get? other =
      if other = key ∧ key ∉ table.keys then some value else table.get? other := by
  unfold insertNew
  split
  · simp_all
  · rename_i fresh
    rw [get?_append]
    simp [fresh]

theorem get?_filter {table : Table κ α} {keep : κ → α → Bool} {key : κ} :
    (table.filter keep).get? key = (table.get? key).filter (keep key) := by
  refine Option.ext fun value => ?_
  rw [get?_eq_some_iff, Option.filter_eq_some_iff, get?_eq_some_iff]
  simp [filter]

theorem contains_eq_isSome {table : Table κ α} {key : κ} :
    table.contains key = (table.get? key).isSome := by
  cases found : table.get? key with
  | none => simpa [contains] using get?_eq_none_iff.1 found
  | some value =>
    have member : key ∈ table.keys := List.mem_map_of_mem (get?_eq_some_iff.1 found)
    simp [contains, member]

end Keyed

end Table

end StoryWorld

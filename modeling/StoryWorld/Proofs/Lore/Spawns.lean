import StoryWorld.Lore.Draft
import StoryWorld.Proofs.Lore.Links
import StoryWorld.Proofs.Table

/-!
# What a spawn table leads to

A spawn table is followed key by key. A key leads to a location that has it as a keyword or, failing
that, to a sublocation that has it as its name. What comes of a whole table can be said location by
location: a location is a target if some key leads to it or to one of its sublocations; its
probability is the last one under a key that leads to the location itself, and the default one if
there is no such key; its overrides are the values under the keys that lead to its sublocations
(`entries_spawnTargets`). The keys that lead nowhere are left over (`unresolved_spawnTargets`).
-/

set_option autoImplicit false

namespace StoryWorld

namespace Draft

/-- The location that a key of a spawn table names. -/
def namedLocation? (draft : Draft) (key : String) : Option ElementId :=
  draft.locations.get? (Text.lowercase key)

/-- The sublocation that a key of a spawn table names, if it names no location. -/
def namedSublocation? (draft : Draft) (key : String) : Option SublocationRef :=
  if (draft.namedLocation? key).isSome then none
  else draft.sublocations.get? (Text.lowercase key)

/-- The location that a key of a spawn table leads to, itself or through a sublocation. -/
def home? (draft : Draft) (key : String) : Option ElementId :=
  (draft.namedLocation? key).or ((draft.namedSublocation? key).map SublocationRef.parent)

/-- The locations that a spawn table leads to, in order of first mention. -/
def homes (draft : Draft) (spawns : List (String × Float)) : List ElementId :=
  distinct (spawns.filterMap fun spawn => draft.home? spawn.1)

/-- The probability of a location: the last one under a key that names it, or else the default. -/
def chanceAt (settings : GraphSettings) (draft : Draft) (spawns : List (String × Float))
    (home : ElementId) : Float :=
  ((spawns.filter fun spawn => decide (draft.namedLocation? spawn.1 = some home)).getLast?.map
    Prod.snd).getD settings.defaultSpawnProbability

/-- The probabilities of sublocations of a location, by name. -/
def overridesAt (draft : Draft) (spawns : List (String × Float)) (home : ElementId) :
    List (String × Float) :=
  spawns.filterMap fun spawn =>
    ((draft.namedSublocation? spawn.1).filter fun ref => decide (ref.parent = home)).map
      fun ref => (ref.name, spawn.2)

section Following

variable (settings : GraphSettings) (draft : Draft)

/-- What is found after some keys of a spawn table. -/
def targetsAfter (spawns : List (String × Float)) : SpawnTargets :=
  spawns.foldl (SpawnTargets.follow settings draft) ⟨.empty, []⟩

theorem targetsAfter_append_singleton (spawns : List (String × Float)) (spawn : String × Float) :
    targetsAfter settings draft (spawns ++ [spawn]) =
      (targetsAfter settings draft spawns).follow settings draft spawn := by
  rw [targetsAfter, List.foldl_append]
  rfl

/-- A key that names a location sets the probability of the location. -/
theorem follow_location {spawn : String × Float} {home : ElementId} (found : SpawnTargets)
    (named : draft.namedLocation? spawn.1 = some home) :
    found.follow settings draft spawn =
      { found with
        targets := found.targets.insert home
          (spawn.2, ((found.targets.get? home).map Prod.snd).getD .empty) } := by
  unfold namedLocation? at named
  simp only [SpawnTargets.follow, named]

/-- A key that names a sublocation adds an override to its location. -/
theorem follow_sublocation {spawn : String × Float} {ref : SublocationRef} (found : SpawnTargets)
    (free : draft.namedLocation? spawn.1 = none)
    (named : draft.namedSublocation? spawn.1 = some ref) :
    found.follow settings draft spawn =
      { found with
        targets := found.targets.insert ref.parent
          (((found.targets.get? ref.parent).getD (settings.defaultSpawnProbability, .empty)).1,
            ((found.targets.get? ref.parent).getD
              (settings.defaultSpawnProbability, .empty)).2.insert ref.name spawn.2) } := by
  unfold namedSublocation? at named
  simp only [free, Option.isSome_none, Bool.false_eq_true, if_false] at named
  unfold namedLocation? at free
  simp only [SpawnTargets.follow, free, named]

/-- A key that names nothing is left over. -/
theorem follow_none {spawn : String × Float} (found : SpawnTargets)
    (free : draft.namedLocation? spawn.1 = none) (none : draft.namedSublocation? spawn.1 = none) :
    found.follow settings draft spawn =
      { found with unresolved := found.unresolved ++ [spawn.1] } := by
  unfold namedSublocation? at none
  simp only [free, Option.isSome_none, Bool.false_eq_true, if_false] at none
  unfold namedLocation? at free
  simp only [SpawnTargets.follow, free, none]

/-- Following a key binds its location, if it has one. -/
theorem keys_follow (found : SpawnTargets) (spawn : String × Float) :
    (found.follow settings draft spawn).targets.keys =
      match draft.home? spawn.1 with
      | some home =>
        if home ∈ found.targets.keys then found.targets.keys else found.targets.keys ++ [home]
      | none => found.targets.keys := by
  cases direct : draft.namedLocation? spawn.1 with
  | some home =>
    rw [follow_location settings draft found direct]
    simp only [home?, direct, Option.some_or, Table.keys_insert]
  | none =>
    cases through : draft.namedSublocation? spawn.1 with
    | some ref =>
      rw [follow_sublocation settings draft found direct through]
      simp only [home?, direct, through, Option.none_or, Option.map_some, Table.keys_insert]
    | none =>
      rw [follow_none settings draft found direct through]
      simp only [home?, direct, through, Option.none_or, Option.map_none]

/-- The targets are the locations that some key leads to, in order of first mention. -/
theorem keys_targetsAfter (spawns : List (String × Float)) :
    (targetsAfter settings draft spawns).targets.keys = draft.homes spawns := by
  induction spawns using List.reverseRecOn with
  | nil => rfl
  | append_singleton spawns spawn ih =>
    rw [targetsAfter_append_singleton, keys_follow, ih]
    unfold homes
    rw [List.filterMap_append]
    cases home : draft.home? spawn.1 with
    | none => simp [home]
    | some id => simp [home, distinct_append_singleton]

/-- What is known of a location after some keys: the last probability under a key that names it, and
the overrides under the keys that name its sublocations. -/
theorem get?_targetsAfter (spawns : List (String × Float)) (home : ElementId) :
    ((targetsAfter settings draft spawns).targets.get? home).getD
        (settings.defaultSpawnProbability, .empty) =
      (chanceAt settings draft spawns home, .ofList (draft.overridesAt spawns home)) := by
  induction spawns using List.reverseRecOn with
  | nil => rfl
  | append_singleton spawns spawn ih =>
    rw [targetsAfter_append_singleton, chanceAt, overridesAt, List.filter_append,
      List.filterMap_append]
    rw [chanceAt, overridesAt] at ih
    cases direct : draft.namedLocation? spawn.1 with
    | some named =>
      have notThrough : draft.namedSublocation? spawn.1 = none := by
        simp [namedSublocation?, direct]
      rw [follow_location settings draft _ direct, Table.get?_insert]
      by_cases here : home = named
      · subst here
        have overrides := congrArg Prod.snd ih
        simp only at overrides
        simp only [direct, decide_true, List.filter_cons_of_pos, List.filter_nil,
          List.getLast?_concat, notThrough, Option.filter_none, Option.map_none,
          List.filterMap_cons_none, List.filterMap_nil, List.append_nil, if_true, Option.getD_some,
          Option.map_some]
        rw [← overrides]
        cases (targetsAfter settings draft spawns).targets.get? home <;> rfl
      · have elsewhere : ¬ named = home := fun same => here same.symm
        simp [here, elsewhere, direct, notThrough, ih]
    | none =>
      cases through : draft.namedSublocation? spawn.1 with
      | some ref =>
        rw [follow_sublocation settings draft _ direct through, Table.get?_insert]
        by_cases here : home = ref.parent
        · subst here
          have chance := congrArg Prod.fst ih
          have overrides := congrArg Prod.snd ih
          simp only at chance overrides
          simp only [if_true, Option.getD_some]
          rw [chance, overrides]
          simp [Table.ofList, direct, through]
        · have elsewhere : ¬ ref.parent = home := fun same => here same.symm
          simp [here, elsewhere, direct, through, ih]
      | none =>
        rw [follow_none settings draft _ direct through]
        simp [direct, through, ih]

/-- **What a spawn table leads to**, location by location. -/
theorem entries_spawnTargets (table : Table String Float) :
    (spawnTargets settings draft table).targets.entries =
      (draft.homes table.entries).map fun home =>
        (home, chanceAt settings draft table.entries home,
          .ofList (draft.overridesAt table.entries home)) := by
  rw [← keys_targetsAfter settings draft]
  change (targetsAfter settings draft table.entries).targets.entries = _
  refine Table.entries_eq_map fun home member => ?_
  have known := get?_targetsAfter settings draft table.entries home
  obtain ⟨value, found⟩ := Table.mem_keys_iff.1 member
  rw [found, Option.getD_some] at known
  rw [← known]
  exact found

/-- The keys that are left over are those that lead nowhere. -/
theorem unresolved_spawnTargets (table : Table String Float) :
    (spawnTargets settings draft table).unresolved =
      (table.entries.filter fun spawn => decide (draft.home? spawn.1 = none)).map Prod.fst := by
  suffices general : ∀ spawns, (targetsAfter settings draft spawns).unresolved =
      (spawns.filter fun spawn => decide (draft.home? spawn.1 = none)).map Prod.fst by
    exact general table.entries
  intro spawns
  induction spawns using List.reverseRecOn with
  | nil => rfl
  | append_singleton spawns spawn ih =>
    rw [targetsAfter_append_singleton, List.filter_append, List.map_append, ← ih]
    cases direct : draft.namedLocation? spawn.1 with
    | some home =>
      rw [follow_location settings draft _ direct]
      simp [home?, direct]
    | none =>
      cases through : draft.namedSublocation? spawn.1 with
      | some ref =>
        rw [follow_sublocation settings draft _ direct through]
        simp [home?, direct, through]
      | none =>
        rw [follow_none settings draft _ direct through]
        simp [home?, direct, through]

end Following

end Draft

end StoryWorld

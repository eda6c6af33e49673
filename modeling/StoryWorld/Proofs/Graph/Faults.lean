import StoryWorld.Proofs.FirstItems
import StoryWorld.Proofs.Graph.Validity

/-!
# The first fault of a snapshot

A snapshot that is not valid is refused for one fault, the first that is met. Identities are looked
at before parents and parents before the ends of edges, and each in the order of the snapshot.
`Snapshot.FirstFault` says which refusal this is by what stands before the fault, with no word about
how it is looked for; `validate_eq_error_iff` says that it is the one that is given.
-/

set_option autoImplicit false

namespace StoryWorld

section First

variable {α : Type} {items : List α} {item : α}

/-- The first repeated item stands after another copy of it, and nothing before it is repeated. -/
theorem firstRepeat?_eq_some_iff [DecidableEq α] {seen : List α} :
    firstRepeat? seen items = some item ↔
      ∃ before after, items = before ++ item :: after ∧ firstRepeat? seen before = none ∧
        (item ∈ seen ∨ item ∈ before) := by
  induction items generalizing seen with
  | nil => simp [firstRepeat?]
  | cons first rest ih =>
    -- What has been seen before the rest counts the first item in.
    have counts (before : List α) :
        item ∈ first :: seen ∨ item ∈ before ↔ item ∈ seen ∨ item ∈ first :: before := by
      rw [List.mem_cons, List.mem_cons, or_assoc, or_left_comm]
    constructor
    · intro found
      rw [firstRepeat?] at found
      split at found
      · rename_i known
        cases found
        exact ⟨[], rest, rfl, rfl, Or.inl known⟩
      · rename_i new
        obtain ⟨before, after, rfl, fresh, again⟩ := ih.1 found
        refine ⟨first :: before, after, rfl, ?_, (counts before).1 again⟩
        rw [firstRepeat?, if_neg new, fresh]
    · rintro ⟨before, after, same, fresh, again⟩
      cases before with
      | nil =>
        cases same
        rw [firstRepeat?, if_pos (by simpa using again)]
      | cons earlier before =>
        cases same
        rw [firstRepeat?] at fresh ⊢
        split at fresh
        · cases fresh
        · rename_i new
          rw [if_neg new]
          exact ih.2 ⟨before, after, rfl, fresh, (counts before).2 again⟩

end First

namespace Snapshot

/-- The node lies in something that is no location of the snapshot. -/
def Orphaned (world : Snapshot) (node : Node) : Prop :=
  ∃ parent, node.parent = some parent ∧ ¬ world.HasLocation parent

/-- An end of the edge is no node of the snapshot. -/
def Dangling (world : Snapshot) (edge : Edge) : Prop :=
  ¬ (world.HasNode edge.source ∧ world.HasNode edge.target)

/-- The refusal of a snapshot names its first fault. -/
inductive FirstFault (world : Snapshot) : Refusal → Prop where
  /-- An identity occurs again: the first, among nodes and then edges, that has occurred before. -/
  | repeated {before after : List ElementId} {id : ElementId}
      (split : world.ids = before ++ id :: after) (again : id ∈ before) (distinct : before.Nodup) :
      FirstFault world (.duplicateId id)
  /-- No identity occurs again. The first sublocation without a location is named with its
  parent. -/
  | orphaned {node : Node} {parent : ElementId} (distinct : world.ids.Nodup)
      (first : FirstWith world.Orphaned world.nodes node) (placed : node.parent = some parent) :
      FirstFault world (.orphanedSublocation node.id parent)
  /-- All identities and sublocations are in order. The first edge that lacks an end lacks its
  source, whether or not it has a target. -/
  | unsourced {edge : Edge} (distinct : world.ids.Nodup)
      (placed : ∀ node ∈ world.nodes, ¬ world.Orphaned node)
      (first : FirstWith world.Dangling world.edges edge) (gone : ¬ world.HasNode edge.source) :
      FirstFault world (.danglingEdge edge.id edge.source)
  /-- All identities and sublocations are in order. The first edge that lacks an end lacks its
  target alone. -/
  | untargeted {edge : Edge} (distinct : world.ids.Nodup)
      (placed : ∀ node ∈ world.nodes, ¬ world.Orphaned node)
      (first : FirstWith world.Dangling world.edges edge) (there : world.HasNode edge.source) :
      FirstFault world (.danglingEdge edge.id edge.target)

variable {world : Snapshot}

/-! ## Each part of the check -/

theorem duplicate_eq_some_iff {why : Refusal} :
    (firstRepeat? [] world.ids).map Refusal.duplicateId = some why ↔
      ∃ before id after, world.ids = before ++ id :: after ∧ id ∈ before ∧ before.Nodup ∧
        why = .duplicateId id := by
  simp only [Option.map_eq_some_iff, firstRepeat?_eq_some_iff, firstRepeat?_eq_none_iff,
    List.not_mem_nil, not_false_eq_true, implies_true, and_true, false_or]
  constructor
  · rintro ⟨id, ⟨before, after, split, distinct, again⟩, rfl⟩
    exact ⟨before, id, after, split, again, distinct, rfl⟩
  · rintro ⟨before, id, after, split, again, distinct, rfl⟩
    exact ⟨id, ⟨before, after, split, distinct, again⟩, rfl⟩

theorem duplicate_eq_none_iff :
    (firstRepeat? [] world.ids).map Refusal.duplicateId = none ↔ world.ids.Nodup := by
  simp [firstRepeat?_eq_none_iff]

section Distinct

variable (distinct : world.ids.Nodup)
include distinct

theorem orphan?_eq_none_iff_not (node : Node) :
    world.orphan? node = none ↔ ¬ world.Orphaned node := by
  rw [orphan?_eq_none_iff (List.nodup_append.1 distinct).1, Orphaned]
  simp

theorem orphan?_eq_some_iff {node : Node} {why : Refusal} (orphaned : world.Orphaned node) :
    world.orphan? node = some why ↔
      ∃ parent, node.parent = some parent ∧ why = .orphanedSublocation node.id parent := by
  have complaint := mt (orphan?_eq_none_iff_not distinct node).1 (not_not_intro orphaned)
  obtain ⟨parent, placed, -⟩ := orphaned
  rw [orphan?, placed] at complaint ⊢
  dsimp only at complaint ⊢
  split
  · rename_i isLocation
    rw [if_pos isLocation] at complaint
    exact absurd rfl complaint
  · simp [eq_comm]

theorem orphans_eq_some_iff {why : Refusal} :
    world.nodes.findSome? world.orphan? = some why ↔
      ∃ node parent, FirstWith world.Orphaned world.nodes node ∧ node.parent = some parent ∧
        why = .orphanedSublocation node.id parent := by
  rw [findSome?_eq_some_iff_firstWith (orphan?_eq_none_iff_not distinct)]
  constructor
  · rintro ⟨node, first, complaint⟩
    obtain ⟨parent, placed, named⟩ := (orphan?_eq_some_iff distinct first.has).1 complaint
    exact ⟨node, parent, first, placed, named⟩
  · rintro ⟨node, parent, first, placed, named⟩
    exact ⟨node, first, (orphan?_eq_some_iff distinct first.has).2 ⟨parent, placed, named⟩⟩

theorem orphans_eq_none_iff :
    world.nodes.findSome? world.orphan? = none ↔ ∀ node ∈ world.nodes, ¬ world.Orphaned node := by
  rw [List.findSome?_eq_none_iff]
  exact forall₂_congr fun node _ => orphan?_eq_none_iff_not distinct node

end Distinct

theorem dangling?_eq_none_iff_not (edge : Edge) :
    world.dangling? edge = none ↔ ¬ world.Dangling edge := by
  rw [dangling?_eq_none_iff, Dangling, not_not]

theorem dangling?_eq_some_iff {edge : Edge} {why : Refusal} (dangling : world.Dangling edge) :
    world.dangling? edge = some why ↔
      ¬ world.HasNode edge.source ∧ why = .danglingEdge edge.id edge.source ∨
        world.HasNode edge.source ∧ why = .danglingEdge edge.id edge.target := by
  by_cases there : world.HasNode edge.source
  · have gone : ¬ world.HasNode edge.target := fun here => dangling ⟨there, here⟩
    simp [dangling?, isSome_node?_iff, there, gone, @eq_comm _ why]
  · simp [dangling?, isSome_node?_iff, there, @eq_comm _ why]

theorem danglings_eq_some_iff {why : Refusal} :
    world.edges.findSome? world.dangling? = some why ↔
      ∃ edge, FirstWith world.Dangling world.edges edge ∧
        (¬ world.HasNode edge.source ∧ why = .danglingEdge edge.id edge.source ∨
          world.HasNode edge.source ∧ why = .danglingEdge edge.id edge.target) := by
  rw [findSome?_eq_some_iff_firstWith dangling?_eq_none_iff_not]
  exact exists_congr fun edge => and_congr_right fun first => dangling?_eq_some_iff first.has

theorem validate_eq_error {why : Refusal} :
    world.validate = .error why ↔ world.complaint? = some why := by
  rw [validate]
  cases world.complaint? <;> simp

/-- **What is refused, and why.** A snapshot is refused for its first fault. -/
theorem validate_eq_error_iff {why : Refusal} :
    world.validate = .error why ↔ world.FirstFault why := by
  rw [validate_eq_error, complaint?, Option.or_eq_some_iff, Option.or_eq_some_iff,
    duplicate_eq_some_iff, duplicate_eq_none_iff, danglings_eq_some_iff]
  constructor
  · rintro (⟨before, id, after, split, again, fresh, rfl⟩ | ⟨distinct, fault⟩)
    · exact .repeated split again fresh
    rw [orphans_eq_some_iff distinct, orphans_eq_none_iff distinct] at fault
    rcases fault with ⟨node, parent, first, placed, rfl⟩ |
      ⟨placed, edge, first, ⟨gone, rfl⟩ | ⟨there, rfl⟩⟩
    · exact .orphaned distinct first placed
    · exact .unsourced distinct placed first gone
    · exact .untargeted distinct placed first there
  · intro fault
    cases fault with
    | repeated split again fresh => exact Or.inl ⟨_, _, _, split, again, fresh, rfl⟩
    | orphaned distinct first placed =>
      exact Or.inr ⟨distinct, Or.inl ((orphans_eq_some_iff distinct).2
        ⟨_, _, first, placed, rfl⟩)⟩
    | unsourced distinct placed first gone =>
      exact Or.inr ⟨distinct, Or.inr ⟨(orphans_eq_none_iff distinct).2 placed, _, first,
        Or.inl ⟨gone, rfl⟩⟩⟩
    | untargeted distinct placed first there =>
      exact Or.inr ⟨distinct, Or.inr ⟨(orphans_eq_none_iff distinct).2 placed, _, first,
        Or.inr ⟨there, rfl⟩⟩⟩

/-- A path to nowhere and from nowhere, twice, and a room without a house. -/
example :
    let path : Edge := ⟨⟨"path"⟩, ⟨"here"⟩, ⟨"there"⟩, .adjacent⟩
    let room := Node.blank ⟨"room"⟩ "Room" (.sublocation ⟨"house"⟩)
    validate ⟨[room], [path, path]⟩ = .error (.duplicateId ⟨"path"⟩) ∧
      validate ⟨[room], [path]⟩ = .error (.orphanedSublocation ⟨"room"⟩ ⟨"house"⟩) ∧
      validate ⟨[], [path]⟩ = .error (.danglingEdge ⟨"path"⟩ ⟨"here"⟩) := by
  intro path room
  exact ⟨rfl, rfl, rfl⟩

end Snapshot

end StoryWorld

import StoryWorld.Proofs.Store.Cascades

/-!
# Deleting in any order

When several elements are deleted one after another, a deletion may take others of them along, and
some are gone by the time it is their turn. Which of the calls removes what, and which are refused,
depends on the order. What is left in the end does not: everything that falls with one of the
elements is gone, once each, and nothing else (`Sound.deletions`). The reason is that a deletion
changes nothing in what falls with other elements, except for what has fallen already
(`Sound.falls_without_iff`).
-/

set_option autoImplicit false

namespace StoryWorld

/-- What a reply tells to have been removed. -/
def Reply.removed? : Reply → Option Removal
  | .removed gone => some gone
  | _ => none

/-- What has been removed by several calls, nodes and edges apart. -/
def Removal.joined (removals : List Removal) : Removal :=
  ⟨removals.flatMap Removal.nodes, removals.flatMap Removal.edges⟩

namespace Store

/-- The removals that a run tells of, in order. -/
def removals (store : Store) : List Operation → List Removal
  | [] => []
  | operation :: rest =>
    (store.step operation).2.removed?.toList ++ (store.step operation).1.removals rest

/-- A store in which elements have been deleted: what falls with one of them is gone and has been
listed once, and the rest of the store is left. -/
structure Cleared (store : Store) (ids : List ElementId) (after : Store) (gone : Removal) :
    Prop where
  left : after = store.without gone
  nodes : ∀ other, other ∈ gone.nodes ↔
    other ∈ store.nodes.keys ∧ ∃ id ∈ ids, store.Falls id other
  edges : ∀ other, other ∈ gone.edges ↔
    other ∈ store.edges.keys ∧ ∃ id ∈ ids, store.Falls id other
  nodes_once : gone.nodes.Nodup
  edges_once : gone.edges.Nodup

variable {store : Store} {id other : ElementId} {gone : Removal}

/-! ## Stores without some elements -/

theorem without_nothing (store : Store) : store.without ⟨[], []⟩ = store := by
  have whole {α : Type} (table : Table ElementId α) :
      (table.filter fun key _ => decide (key ∉ ([] : List ElementId))) = table :=
    Table.filter_keys_eq_self fun _ _ => decide_eq_true List.not_mem_nil
  obtain ⟨nodes, edges, numbering, settings, selection⟩ := store
  simp only [without, whole]
  cases selection <;> rfl

/-- What is taken out in two steps can be taken out in one. -/
theorem without_without (store : Store) (gone later : Removal) :
    (store.without gone).without later =
      store.without ⟨gone.nodes ++ later.nodes, gone.edges ++ later.edges⟩ := by
  have tables {α : Type} (table : Table ElementId α) (first second : List ElementId) :
      ((table.filter fun key _ => decide (key ∉ first)).filter fun key _ =>
          decide (key ∉ second)) =
        table.filter fun key _ => decide (key ∉ first ++ second) := by
    refine Table.ext_entries ?_
    simp only [Table.filter, List.filter_filter, List.mem_append, not_or, Bool.decide_and,
      Bool.and_comm]
  rw [without, without, without, tables, tables]
  congr 1
  cases store.selection with
  | none => rfl
  | some chosen =>
    simp only [Option.filter_some, List.mem_append, not_or]
    by_cases spared : chosen ∉ gone.nodes ∧ chosen ∉ gone.edges
    · simp [spared, Option.filter_some]
    · rw [if_neg (by simpa using spared), if_neg, Option.filter_none]
      simp only [decide_eq_true_eq]
      exact fun both => spared ⟨both.1.1, both.2.1⟩

/-- What is left depends on which elements are taken out, and not on how they are listed. -/
theorem without_congr {also : Removal} (nodes : ∀ other, other ∈ gone.nodes ↔ other ∈ also.nodes)
    (edges : ∀ other, other ∈ gone.edges ↔ other ∈ also.edges) :
    store.without gone = store.without also := by
  simp only [without, nodes, edges]

/-! ## One deletion -/

theorem step_delete (found : store.removal id = .ok gone) :
    store.step (.delete id) = (store.without gone, .removed gone) := by
  rw [step, delete_eq found]
  rfl

theorem delete_refused (absent : ¬ store.Holds id) :
    store.delete id = .error (.unknownElement id) := by
  rw [delete, removal_refused absent]
  rfl

/-- Nothing is refused but what is not there. -/
theorem absent_of_delete {why : Refusal} (refused : store.delete id = .error why) :
    why = .unknownElement id ∧ ¬ store.Holds id := by
  by_cases held : store.Holds id
  · obtain ⟨gone, found⟩ := exists_removal held
    rw [delete_eq found] at refused
    cases refused
  · rw [delete_refused held] at refused
    cases refused
    exact ⟨rfl, held⟩

/-- With an element that does not fall itself there falls after a deletion what fell before. -/
theorem Sound.falls_without_iff (sound : store.Sound) (found : store.removal id = .ok gone)
    {first : ElementId} (stays : ¬ store.Falls id other) :
    (store.without gone).Falls first other ↔ store.Falls first other := by
  constructor
  · intro falls
    clear stays
    induction falls with
    | itself => exact .itself
    | inside here placed falls ih => exact .inside (get?_nodes_without.1 here).1 placed ih
    | attached here ends falls ih => exact .attached (get?_edges_without.1 here).1 ends ih
  · intro falls
    -- What falls before is on the way to what stays, so it stays too.
    induction falls with
    | itself => exact .itself
    | inside here placed falls ih =>
      refine .inside (get?_nodes_without.2 ⟨here, fun taken => ?_⟩) placed
        (ih fun before => stays (.inside here placed before))
      exact stays ((sound.mem_removal_iff found).1 (Or.inl taken))
    | attached here ends falls ih =>
      refine .attached (get?_edges_without.2 ⟨here, fun taken => ?_⟩) ends
        (ih fun before => stays (.attached here ends before))
      exact stays ((sound.mem_removal_iff found).1 (Or.inr taken))

namespace Cleared

variable {rest : List ElementId} {after : Store} {later : Removal}

/-- Nothing is deleted by a refused call. -/
theorem absent (cleared : store.Cleared rest after gone) (consistent : store.Consistent)
    (absent : ¬ store.Holds id) : store.Cleared (id :: rest) after gone := by
  have same : ∀ other, store.Holds other →
      ((∃ first ∈ id :: rest, store.Falls first other) ↔
        ∃ first ∈ rest, store.Falls first other) := by
    intro other held
    rw [List.exists_mem_cons_iff, or_iff_right]
    exact fun falls => absent ((consistent.holds_iff_of_falls falls).1 held)
  refine ⟨cleared.left, fun other => ?_, fun other => ?_, cleared.nodes_once, cleared.edges_once⟩
  · rw [cleared.nodes]
    exact and_congr_right fun isNode => (same other (Or.inl isNode)).symm
  · rw [cleared.edges]
    exact and_congr_right fun isEdge => (same other (Or.inr isEdge)).symm

/-- What falls with one of several elements falls with the first, or it stays with it and falls with
another one afterwards. -/
theorem cons_iff (sound : store.Sound) (found : store.removal id = .ok gone) :
    (∃ first ∈ id :: rest, store.Falls first other) ↔
      store.Falls id other ∨
        ¬ store.Falls id other ∧ ∃ first ∈ rest, (store.without gone).Falls first other := by
  by_cases taken : store.Falls id other
  · exact iff_of_true ⟨id, List.mem_cons_self .., taken⟩ (Or.inl taken)
  · simp only [List.exists_mem_cons_iff, taken, not_false_eq_true, true_and, false_or,
      sound.falls_without_iff found taken]

/-- A deletion and those after it. -/
theorem cons (sound : store.Sound) (found : store.removal id = .ok gone)
    (cleared : (store.without gone).Cleared rest after later) :
    store.Cleared (id :: rest) after
      ⟨gone.nodes ++ later.nodes, gone.edges ++ later.edges⟩ where
  left := by rw [cleared.left, without_without]
  nodes := by
    intro other
    rw [cons_iff sound found, List.mem_append, cleared.nodes, mem_keys_nodes_without,
      sound.mem_removal_nodes_iff found]
    by_cases isNode : other ∈ store.nodes.keys <;> simp [isNode]
  edges := by
    intro other
    rw [cons_iff sound found, List.mem_append, cleared.edges, mem_keys_edges_without,
      sound.mem_removal_edges_iff found]
    by_cases isEdge : other ∈ store.edges.keys <;> simp [isEdge]
  nodes_once := by
    have once := (removal_sublist found).1.nodup store.nodes.keys_nodup
    refine List.nodup_append.2 ⟨once, cleared.nodes_once, ?_⟩
    rintro other taken _ again rfl
    exact (mem_keys_nodes_without.1 ((cleared.nodes other).1 again).1).2 taken
  edges_once := by
    have once := (removal_sublist found).2.nodup store.edges.keys_nodup
    refine List.nodup_append.2 ⟨once, cleared.edges_once, ?_⟩
    rintro other taken _ again rfl
    exact (mem_keys_edges_without.1 ((cleared.edges other).1 again).1).2 taken

/-- No element is listed twice, be it as a node and as an edge. -/
theorem nodup (cleared : store.Cleared rest after gone) (consistent : store.Consistent) :
    (gone.nodes ++ gone.edges).Nodup := by
  refine List.nodup_append.2 ⟨cleared.nodes_once, cleared.edges_once, ?_⟩
  rintro other isNode _ isEdge rfl
  exact consistent.disjoint other ((cleared.nodes other).1 isNode).1
    ((cleared.edges other).1 isEdge).1

/-- What is gone depends on which elements have been deleted, and not on their order. -/
theorem same_of_perm {others : List ElementId} {last : Store}
    (first : store.Cleared rest after gone) (second : store.Cleared others last later)
    (reordered : rest.Perm others) :
    after = last ∧ gone.nodes.Perm later.nodes ∧ gone.edges.Perm later.edges := by
  have nodes : ∀ other, other ∈ gone.nodes ↔ other ∈ later.nodes := by
    intro other
    rw [first.nodes, second.nodes]
    simp only [reordered.mem_iff]
  have edges : ∀ other, other ∈ gone.edges ↔ other ∈ later.edges := by
    intro other
    rw [first.edges, second.edges]
    simp only [reordered.mem_iff]
  refine ⟨?_, (List.perm_ext_iff_of_nodup first.nodes_once second.nodes_once).2 nodes,
    (List.perm_ext_iff_of_nodup first.edges_once second.edges_once).2 edges⟩
  rw [first.left, second.left]
  exact without_congr nodes edges

end Cleared

/-! ## Deletions one after another -/

/-- **What deletions leave.** Whichever of them are refused, elements that are deleted one after
another are gone with all that falls with them in the first store. -/
theorem Sound.deletions (sound : store.Sound) (ids : List ElementId) :
    store.Cleared ids (store.run (ids.map .delete))
      (Removal.joined (store.removals (ids.map .delete))) := by
  induction ids generalizing store with
  | nil =>
    exact ⟨(without_nothing store).symm, fun _ => by simp [Removal.joined, removals],
      fun _ => by simp [Removal.joined, removals], List.nodup_nil, List.nodup_nil⟩
  | cons id rest ih =>
    rw [List.map_cons, Store.run, List.foldl_cons, ← Store.run, removals]
    by_cases held : store.Holds id
    · obtain ⟨gone, found⟩ := exists_removal held
      rw [step_delete found]
      exact .cons sound found (ih (sound.removed found))
    · have refused : store.step (.delete id) = (store, .refused (.unknownElement id)) := by
        rw [step, delete_refused held]
        rfl
      rw [refused]
      exact (ih sound).absent sound.consistent held

/-- **Deletions commute.** When elements are deleted one after another in a store that an editing
session has reached, the order makes no difference to the store that is left, whether the elements
are there or not. In either order the same elements are removed, all calls taken together, and none
twice. A deletion is refused only where the element is not there any more. -/
theorem deletions_commute (settings : GraphSettings) (operations : List Operation)
    {ids others : List ElementId} (reordered : ids.Perm others) :
    let store := (Store.empty settings).run operations
    let taken := Removal.joined (store.removals (ids.map .delete))
    let also := Removal.joined (store.removals (others.map .delete))
    store.run (ids.map .delete) = store.run (others.map .delete) ∧
      taken.nodes.Perm also.nodes ∧ taken.edges.Perm also.edges ∧
      (taken.nodes ++ taken.edges).Nodup ∧
      ∀ (reached : Store) (id : ElementId) (why : Refusal), reached.delete id = .error why →
        why = .unknownElement id ∧ ¬ reached.Holds id := by
  intro store taken also
  have sound : store.Sound := (Sound.empty settings).run operations
  have first := sound.deletions ids
  obtain ⟨left, nodes, edges⟩ := first.same_of_perm (sound.deletions others) reordered
  exact ⟨left, nodes, edges, first.nodup sound.consistent, fun _ _ _ => absent_of_delete⟩

/-- The house, its cellar and the edge from there are deleted, with an identity of nothing, in two
orders: all three calls succeed in one of them, and only one in the other. -/
theorem lodgings_deletions :
    let store := (Store.empty {}).run lodgings
    let house : ElementId := .numbered (.node .location) 1
    let cellar : ElementId := .numbered (.node .sublocation) 2
    let draught : ElementId := .numbered .edge 1
    let ids := [draught, cellar, ⟨"attic"⟩, house]
    let others := [house, cellar, draught, ⟨"attic"⟩]
    ids.Perm others ∧ store.run (ids.map .delete) = store.run (others.map .delete) ∧
      store.removals (ids.map .delete) =
        [⟨[], [draught]⟩, ⟨[cellar], []⟩, ⟨[house], [.numbered .edge 3]⟩] ∧
      store.removals (others.map .delete) =
        [⟨[house, cellar], [draught, .numbered .edge 3]⟩] := by
  intro store house cellar draught ids others
  have reordered : ids.Perm others := by decide +kernel
  exact ⟨reordered, (deletions_commute {} lodgings reordered).1, by decide +kernel,
    by decide +kernel⟩

end Store

end StoryWorld

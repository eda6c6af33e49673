import Mathlib.Data.List.Induction
import StoryWorld.Proofs.Graph.NumberedIds
import StoryWorld.Store.Numbering

/-!
# What a numbering gives out

An identity that is given out has the next ordinal of its scope. From this two rules follow that
hold of whatever is made with a numbering. Its ordinals have sixty-four bits (`Bounded`), and it does
not come back to an ordinal (`Past`): a numbering that is past an identity stays so, it is past what
it has given out, and what it gives out is nothing that it is past of. Identities may be any texts,
so this is said of what their texts show and not of how they came about.

A numbering that continues past identities starts from the greatest ordinals among them
(`greatestOf_greatest`), and is past each of them (`past_pastAll`). Where they are numbered in order,
these ordinals are their counts (`pastAll_of_counted`).
-/

set_option autoImplicit false

namespace StoryWorld

namespace Numbering

/-! ## Giving out an identity -/

section Allocate

variable {numbering next : Numbering} {kind : IdKind} {id : ElementId} {ordinal : Nat}

theorem allocate_of_next (found : numbering.next? kind.scope = some ordinal) :
    numbering.allocate kind =
      .ok (.numbered kind ordinal, numbering.setNext (successor? ordinal) kind.scope) := by
  rw [allocate, found]

theorem allocate_of_spent (spent : numbering.next? kind.scope = none) :
    numbering.allocate kind = .error (.idsExhausted kind.scope) := by
  rw [allocate, spent]

/-- An identity that is given out has the next ordinal of its scope. -/
theorem allocate_eq_ok (allocated : numbering.allocate kind = .ok (id, next)) :
    ∃ ordinal, numbering.next? kind.scope = some ordinal ∧ id = .numbered kind ordinal ∧
      next = numbering.setNext (successor? ordinal) kind.scope := by
  cases found : numbering.next? kind.scope with
  | none =>
    rw [allocate_of_spent found] at allocated
    cases allocated
  | some ordinal =>
    rw [allocate_of_next found] at allocated
    cases allocated
    exact ⟨ordinal, rfl, rfl, rfl⟩

end Allocate

/-! ## Numberings that are past an identity -/

/-- The numbering gives out nothing but ordinals of sixty-four bits. -/
def Bounded (numbering : Numbering) : Prop :=
  ∀ scope next, numbering.next? scope = some next → next ≤ ElementId.maxOrdinal

/-- The numbering is past an identity: it does not give out its ordinal any more. -/
def Past (numbering : Numbering) (id : ElementId) : Prop :=
  ∀ ordinal next, id.ordinal = some ordinal → numbering.next? id.scope = some next → ordinal < next

theorem successor?_eq_some {ordinal next : Nat} (found : successor? ordinal = some next) :
    next = ordinal + 1 ∧ next ≤ ElementId.maxOrdinal := by
  unfold successor? at found
  split at found
  · cases found
    exact ⟨rfl, by omega⟩
  · cases found

theorem bounded_start : start.Bounded := by
  intro scope next found
  cases scope <;> cases found <;> decide

theorem bounded_past (lastNode lastEdge : Nat) : (past lastNode lastEdge).Bounded := by
  intro scope next found
  cases scope <;> exact (successor?_eq_some found).2

theorem Bounded.allocate {numbering next : Numbering} {kind : IdKind} {id : ElementId}
    (bounded : numbering.Bounded) (allocated : numbering.allocate kind = .ok (id, next)) :
    next.Bounded := by
  obtain ⟨ordinal, -, -, rfl⟩ := allocate_eq_ok allocated
  intro scope following found
  rw [next?_setNext] at found
  split at found
  · exact (successor?_eq_some found).2
  · exact bounded scope following found

/-- Giving out an identity keeps what the numbering is past of. -/
theorem Past.allocate {numbering next : Numbering} {kind : IdKind} {id other : ElementId}
    (past : numbering.Past other) (allocated : numbering.allocate kind = .ok (id, next)) :
    next.Past other := by
  obtain ⟨given, here, -, rfl⟩ := allocate_eq_ok allocated
  intro ordinal following reads found
  rw [next?_setNext] at found
  split at found
  · rename_i same
    have before := past ordinal given reads (same ▸ here)
    have after := (successor?_eq_some found).1
    omega
  · exact past ordinal following reads found

/-- The numbering is past what it has given out. -/
theorem past_of_allocate {numbering next : Numbering} {kind : IdKind} {id : ElementId}
    (bounded : numbering.Bounded) (allocated : numbering.allocate kind = .ok (id, next)) :
    next.Past id := by
  obtain ⟨given, here, rfl, rfl⟩ := allocate_eq_ok allocated
  intro ordinal following reads found
  rw [ElementId.ordinal_numbered kind (bounded _ _ here)] at reads
  rw [next?_setNext, ElementId.scope_numbered, if_pos rfl] at found
  cases reads
  have after := (successor?_eq_some found).1
  omega

/-- What is given out is nothing that the numbering is past of. -/
theorem Past.ne_of_allocate {numbering next : Numbering} {kind : IdKind} {id other : ElementId}
    (past : numbering.Past other) (bounded : numbering.Bounded)
    (allocated : numbering.allocate kind = .ok (id, next)) : other ≠ id := by
  obtain ⟨given, here, rfl, -⟩ := allocate_eq_ok allocated
  rintro rfl
  have below := past given given (ElementId.ordinal_numbered kind (bounded _ _ here))
    (by rwa [ElementId.scope_numbered])
  omega

/-! ## The greatest ordinal among identities -/

/-- The greatest ordinal that identities have in a scope, or zero if none of them has one there. -/
structure GreatestOf (scope : IdScope) (ids : List ElementId) (last : Nat) : Prop where
  bounds : ∀ id ∈ ids, id.scope = scope → ∀ n, id.ordinal = some n → n ≤ last
  reached : last = 0 ∨ ∃ id ∈ ids, id.scope = scope ∧ id.ordinal = some last

section Greatest

variable {scope : IdScope} {ids : List ElementId} {id : ElementId} {last other n : Nat}

theorem GreatestOf.le (greatest : GreatestOf scope ids last)
    (also : GreatestOf scope ids other) : last ≤ other := by
  rcases greatest.reached with rfl | ⟨id, member, here, reads⟩
  · exact Nat.zero_le other
  · exact also.bounds id member here last reads

/-- An identity of another scope, and one without an ordinal, leaves the greatest ordinal. -/
theorem GreatestOf.skip (greatest : GreatestOf scope ids last)
    (silent : id.scope = scope → id.ordinal = none) : GreatestOf scope (ids ++ [id]) last where
  bounds := by
    refine List.forall_mem_append.2 ⟨greatest.bounds, List.forall_mem_singleton.2 ?_⟩
    intro here n reads
    cases (silent here).symm.trans reads
  reached := greatest.reached.imp_right fun ⟨other, member, shows⟩ =>
    ⟨other, List.mem_append_left _ member, shows⟩

/-- An identity of the scope raises the greatest ordinal to its own. -/
theorem GreatestOf.raise (greatest : GreatestOf scope ids last) (here : id.scope = scope)
    (reads : id.ordinal = some n) : GreatestOf scope (ids ++ [id]) (max last n) where
  bounds := by
    refine List.forall_mem_append.2 ⟨fun other member there m shows => ?_,
      List.forall_mem_singleton.2 fun _ m shows => ?_⟩
    · exact Nat.le_trans (greatest.bounds other member there m shows) (Nat.le_max_left ..)
    · cases reads.symm.trans shows
      exact Nat.le_max_right ..
  reached := by
    rcases Nat.le_total last n with raised | kept
    · rw [Nat.max_eq_right raised]
      exact Or.inr ⟨id, List.mem_append_right _ (List.mem_singleton_self id), here, reads⟩
    · rw [Nat.max_eq_left kept]
      exact greatest.reached.imp_right fun ⟨other, member, shows⟩ =>
        ⟨other, List.mem_append_left _ member, shows⟩

theorem greatest_append (ids : List ElementId) (id : ElementId) :
    greatest scope (ids ++ [id]) =
      if id.scope = scope then max (greatest scope ids) (id.ordinal.getD 0)
      else greatest scope ids := by
  rw [greatest, List.foldl_append]
  rfl

theorem greatestOf_greatest (scope : IdScope) (ids : List ElementId) :
    GreatestOf scope ids (greatest scope ids) := by
  induction ids using List.reverseRecOn with
  | nil => exact ⟨fun _ member => absurd member List.not_mem_nil, Or.inl rfl⟩
  | append_singleton ids id ih =>
    rw [greatest_append]
    split
    · rename_i here
      cases reads : id.ordinal with
      | none =>
        rw [Option.getD_none, Nat.max_zero]
        exact ih.skip fun _ => reads
      | some n => exact ih.raise here reads
    · rename_i elsewhere
      exact ih.skip fun here => absurd here elsewhere

theorem greatest_eq (greatest : GreatestOf scope ids last) : Numbering.greatest scope ids = last :=
  Nat.le_antisymm ((greatestOf_greatest scope ids).le greatest)
    (greatest.le (greatestOf_greatest scope ids))

/-- A numbering that continues past identities is past each of them. -/
theorem past_pastAll (member : id ∈ ids) : (pastAll ids).Past id := by
  intro ordinal next reads found
  have below := (greatestOf_greatest id.scope ids).bounds id member rfl ordinal reads
  have after : next = greatest id.scope ids + 1 := by
    cases scope : id.scope <;> rw [scope] at found <;> exact (successor?_eq_some found).1
  omega

end Greatest

/-! ## Identities that are numbered in order -/

/-- The identities belong to a scope and have its ordinals in order, from one on. -/
def Counted (scope : IdScope) (ids : List ElementId) : Prop :=
  ∀ (i : Nat) (id : ElementId), ids[i]? = some id → id.scope = scope ∧ id.ordinal = some (i + 1)

section Counted

variable {scope : IdScope} {ids all nodes edges : List ElementId} {id : ElementId}

theorem Counted.of_numbered {α : Type} {items : List α} {ident : α → ElementId}
    (kind : α → IdKind) (within : ∀ item, (kind item).scope = scope)
    (numbered : ∀ (i : Nat) (item : α), items[i]? = some item →
      ident item = .numbered (kind item) (i + 1))
    (few : items.length ≤ ElementId.maxOrdinal) : Counted scope (items.map ident) := by
  intro i id found
  rw [List.getElem?_map] at found
  obtain ⟨item, here, rfl⟩ := Option.map_eq_some_iff.1 found
  have bound := (List.getElem?_eq_some_iff.1 here).1
  rw [numbered i item here]
  exact ⟨(ElementId.scope_numbered _ _).trans (within item),
    ElementId.ordinal_numbered _ (Nat.le_trans bound few)⟩

theorem Counted.scope_of_mem (counted : Counted scope ids) (member : id ∈ ids) :
    id.scope = scope := by
  obtain ⟨i, found⟩ := List.mem_iff_getElem?.1 member
  exact (counted i id found).1

/-- Where the identities of a scope are numbered in order, the greatest ordinal is their count. -/
theorem greatest_of_counted (counted : Counted scope ids) (included : ids ⊆ all)
    (others : ∀ id ∈ all, id ∈ ids ∨ id.scope ≠ scope) : greatest scope all = ids.length := by
  refine greatest_eq ⟨fun id member here n reads => ?_, ?_⟩
  · obtain ⟨i, found⟩ :=
      List.mem_iff_getElem?.1 ((others id member).resolve_right fun no => no here)
    rw [(counted i id found).2] at reads
    cases reads
    exact (List.getElem?_eq_some_iff.1 found).1
  · rcases Nat.eq_zero_or_pos ids.length with zero | positive
    · exact Or.inl zero
    · have bound : ids.length - 1 < ids.length := by omega
      have last := counted _ _ (List.getElem?_eq_getElem bound)
      refine Or.inr ⟨_, included (List.getElem_mem bound), last.1, ?_⟩
      rw [last.2, Nat.sub_add_cancel positive]

/-- After nodes and edges that are numbered in order, numbering goes on from their counts. -/
theorem pastAll_of_counted (nodeCounted : Counted .node nodes) (edgeCounted : Counted .edge edges)
    (fewNodes : nodes.length < ElementId.maxOrdinal)
    (fewEdges : edges.length < ElementId.maxOrdinal) :
    pastAll (nodes ++ edges) = ⟨some (nodes.length + 1), some (edges.length + 1)⟩ := by
  have lastNode : greatest .node (nodes ++ edges) = nodes.length := by
    refine greatest_of_counted nodeCounted (List.subset_append_left _ _) fun id member => ?_
    refine (List.mem_append.1 member).imp_right fun isEdge => ?_
    rw [edgeCounted.scope_of_mem isEdge]
    exact IdScope.noConfusion
  have lastEdge : greatest .edge (nodes ++ edges) = edges.length := by
    refine greatest_of_counted edgeCounted (List.subset_append_right _ _) fun id member => ?_
    refine (List.mem_append.1 member).symm.imp_right fun isNode => ?_
    rw [nodeCounted.scope_of_mem isNode]
    exact IdScope.noConfusion
  rw [pastAll, lastNode, lastEdge, past, successor?, successor?, if_pos fewNodes, if_pos fewEdges]

end Counted

end Numbering

end StoryWorld

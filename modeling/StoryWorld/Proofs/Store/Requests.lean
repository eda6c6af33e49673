import StoryWorld.Proofs.Store.Numberings

/-!
# Requests for identities

Identities are asked for one at a time, for an element of some kind. A request is refused once its
scope is spent, and then leaves the numbering as it is; `answers` is what comes back to a row of
requests.

A numbering that goes on from a last ordinal in each scope (`GoesOnFrom`) does so again after a
request, from one ordinal further on in the scope of the request. This is so even if the request is
refused, since nothing follows the greatest ordinal, and it makes every answer known beforehand: the
ordinal is the last one, plus the earlier requests in the scope, plus one
(`GoesOnFrom.answers_eq`).

`identities_correspond` puts this together with what the texts of identities show: nothing that is
given out stands among the identities that a numbering continues past, whatever their texts are.
-/

set_option autoImplicit false

namespace StoryWorld

namespace Numbering

/-- Asks for an identity. If that is refused, the numbering stays as it is. -/
def request (numbering : Numbering) (kind : IdKind) : Numbering × Except Refusal ElementId :=
  match numbering.allocate kind with
  | .ok (id, next) => (next, .ok id)
  | .error why => (numbering, .error why)

/-- The answers to requests, made one after the other. -/
def answers (numbering : Numbering) : List IdKind → List (Except Refusal ElementId)
  | [] => []
  | kind :: rest => (numbering.request kind).2 :: (numbering.request kind).1.answers rest

/-- The answer to a request whose turn it is to have the given ordinal. -/
def answer (kind : IdKind) (ordinal : Nat) : Except Refusal ElementId :=
  if ordinal ≤ ElementId.maxOrdinal then .ok (.numbered kind ordinal)
  else .error (.idsExhausted kind.scope)

/-- In each scope the numbering continues after a given ordinal. -/
def GoesOnFrom (numbering : Numbering) (last : IdScope → Nat) : Prop :=
  ∀ scope, numbering.next? scope = successor? (last scope)

theorem request_of_next {numbering : Numbering} {kind : IdKind} {ordinal : Nat}
    (found : numbering.next? kind.scope = some ordinal) :
    numbering.request kind =
      (numbering.setNext (successor? ordinal) kind.scope, .ok (.numbered kind ordinal)) := by
  rw [request, allocate_of_next found]

theorem request_of_spent {numbering : Numbering} {kind : IdKind}
    (spent : numbering.next? kind.scope = none) :
    numbering.request kind = (numbering, .error (.idsExhausted kind.scope)) := by
  rw [request, allocate_of_spent spent]

theorem answer_eq_ok {kind : IdKind} {ordinal : Nat} {id : ElementId}
    (given : answer kind ordinal = .ok id) :
    ordinal ≤ ElementId.maxOrdinal ∧ id = .numbered kind ordinal := by
  unfold answer at given
  split at given
  · rename_i within
    cases given
    exact ⟨within, rfl⟩
  · cases given

theorem answer_eq_error {kind : IdKind} {ordinal : Nat} {why : Refusal}
    (refused : answer kind ordinal = .error why) :
    ElementId.maxOrdinal < ordinal ∧ why = .idsExhausted kind.scope := by
  unfold answer at refused
  split at refused
  · cases refused
  · rename_i beyond
    cases refused
    exact ⟨Nat.lt_of_not_le beyond, rfl⟩

theorem goesOnFrom_past (lastNode lastEdge : Nat) :
    (past lastNode lastEdge).GoesOnFrom fun
      | .node => lastNode
      | .edge => lastEdge := by
  intro scope
  cases scope <;> rfl

theorem goesOnFrom_pastAll (ids : List ElementId) :
    (pastAll ids).GoesOnFrom fun scope => greatest scope ids := by
  intro scope
  cases scope <;> rfl

namespace GoesOnFrom

variable {numbering : Numbering} {last : IdScope → Nat}

/-- Where one scope has moved on by an ordinal, the numbering goes on from there. -/
theorem advance (goesOn : numbering.GoesOnFrom last) {after : Numbering} {scope : IdScope}
    (moved : after.next? scope = successor? (last scope + 1))
    (others : ∀ other, other ≠ scope → after.next? other = numbering.next? other) :
    after.GoesOnFrom fun other => last other + if scope = other then 1 else 0 := by
  intro other
  by_cases same : scope = other
  · subst same
    simpa using moved
  · simpa [same] using (others other (Ne.symm same)).trans (goesOn other)

/-- **A request has the ordinal after the last one of its scope**, and the numbering goes on from
there. -/
theorem request (goesOn : numbering.GoesOnFrom last) (kind : IdKind) :
    (numbering.request kind).2 = answer kind (last kind.scope + 1) ∧
      (numbering.request kind).1.GoesOnFrom fun scope =>
        last scope + if kind.scope = scope then 1 else 0 := by
  have next := goesOn kind.scope
  by_cases within : last kind.scope < ElementId.maxOrdinal
  · rw [successor?, if_pos within] at next
    rw [request_of_next next, answer, if_pos (Nat.succ_le_of_lt within)]
    refine ⟨rfl, goesOn.advance ?_ fun other elsewhere => ?_⟩
    · rw [next?_setNext, if_pos rfl]
    · rw [next?_setNext, if_neg elsewhere]
  · rw [successor?, if_neg within] at next
    rw [request_of_spent next, answer, if_neg (by omega)]
    -- The scope is spent, and stays so however far one counts on.
    refine ⟨rfl, goesOn.advance ?_ fun other elsewhere => rfl⟩
    rw [successor?, if_neg (by omega)]
    exact next

/-- **Every answer is known beforehand**: it depends on the last ordinal of its scope and on the
number of earlier requests there. -/
theorem answers_eq (goesOn : numbering.GoesOnFrom last) (requests : List IdKind) :
    numbering.answers requests = requests.mapIdx fun i kind =>
      answer kind (last kind.scope + (requests.take i).countP (·.scope = kind.scope) + 1) := by
  induction requests generalizing numbering last with
  | nil => rfl
  | cons first rest ih =>
    obtain ⟨told, later⟩ := goesOn.request first
    rw [answers, told, ih later, List.mapIdx_cons]
    refine congrArg (answer first (last first.scope + 1) :: ·) ?_
    refine congrArg (List.mapIdx · rest) (funext fun i => funext fun kind => ?_)
    rw [List.take_succ_cons, List.countP_cons]
    simp only [decide_eq_true_eq]
    congr 1
    omega

/-- What is given out has an ordinal after the last one of its scope. -/
theorem ordinal_of_mem_answers (goesOn : numbering.GoesOnFrom last) {requests : List IdKind}
    {id : ElementId} (given : .ok id ∈ numbering.answers requests) :
    ∃ ordinal, id.ordinal = some ordinal ∧ last id.scope < ordinal := by
  rw [goesOn.answers_eq] at given
  obtain ⟨i, bound, told⟩ := List.mem_mapIdx.1 given
  obtain ⟨within, rfl⟩ := answer_eq_ok told
  refine ⟨_, ElementId.ordinal_numbered _ within, ?_⟩
  rw [ElementId.scope_numbered]
  omega

end GoesOnFrom

/-- **Identities and ordinals correspond.**

* An identity of any kind with any ordinal of sixty-four bits has this ordinal and the scope of the
  kind, and no other kind or ordinal gives the same identity.
* An arbitrary text has an ordinal exactly if it shows one, and belongs to the edges exactly if it
  starts like the identities of edges.
* After continuing past identities with arbitrary texts, none of them is given out, however many
  requests are made. What is given out, or refused, follows from the greatest ordinals among them
  alone.
* Identities without an ordinal may be ignored: no numbering gives one out, wherever it starts. -/
theorem identities_correspond :
    (∀ (kind : IdKind) (n : Nat), n ≤ ElementId.maxOrdinal →
      (ElementId.numbered kind n).ordinal = some n ∧
        (ElementId.numbered kind n).scope = kind.scope) ∧
    (Function.Injective fun given : IdKind × Nat => ElementId.numbered given.1 given.2) ∧
    (∀ (id : ElementId) (n : Nat), id.ordinal = some n ↔ id.Shows n) ∧
    (∀ id : ElementId, id.scope = .edge ↔ ∃ rest, id.text.toList = "edge_".toList ++ rest) ∧
    (∀ (ids : List ElementId) (requests : List IdKind),
      (∀ id ∈ ids, .ok id ∉ (pastAll ids).answers requests) ∧
      ∃ last : IdScope → Nat, (∀ scope, GreatestOf scope ids (last scope)) ∧
        (pastAll ids).answers requests = requests.mapIdx fun i kind =>
          answer kind (last kind.scope + (requests.take i).countP (·.scope = kind.scope) + 1)) ∧
    ∀ id : ElementId, id.ordinal = none →
      ∀ (lastNode lastEdge : Nat) (requests : List IdKind),
        .ok id ∉ (past lastNode lastEdge).answers requests := by
  refine ⟨fun kind n within => ?_, fun given other same => ?_,
    fun id n => ElementId.ordinal_eq_some_iff, fun id => ElementId.scope_eq_edge_iff,
    fun ids requests => ⟨?_, ?_⟩, ?_⟩
  · exact ⟨ElementId.ordinal_numbered kind within, ElementId.scope_numbered kind n⟩
  · exact Prod.ext_iff.2 (ElementId.numbered_inj same)
  · intro id member given
    obtain ⟨ordinal, reads, beyond⟩ := (goesOnFrom_pastAll ids).ordinal_of_mem_answers given
    have below := (greatestOf_greatest id.scope ids).bounds id member rfl ordinal reads
    omega
  · exact ⟨fun scope => greatest scope ids, fun scope => greatestOf_greatest scope ids,
      (goesOnFrom_pastAll ids).answers_eq requests⟩
  · intro id silent lastNode lastEdge requests given
    obtain ⟨ordinal, reads, -⟩ := (goesOnFrom_past lastNode lastEdge).ordinal_of_mem_answers given
    cases silent.symm.trans reads

/-- Texts that nobody gave out: an ordinal with a sign and zeros, the last but one of the edges, one
that is too great, one without a stem, and none at all. -/
def strays : List ElementId :=
  [⟨"inn_+007"⟩, ⟨"edge_of_town_18446744073709551614"⟩, ⟨"loc_18446744073709551616"⟩, ⟨"_12"⟩,
    ⟨"edge_"⟩]

/-- An edge, an event, another edge, and a location. -/
def newcomers : List IdKind := [.edge, .node .event, .edge, .node .location]

/-- The newcomers are numbered past the strays, but for the second edge, which has no ordinal left;
and a location with an ordinal that is too great does not come up where numbers run out. -/
theorem identities_correspond_strays :
    (ElementId.numbered .edge ElementId.maxOrdinal).ordinal = some ElementId.maxOrdinal ∧
      ElementId.numbered (.node .location) 11 ≠ ElementId.numbered (.node .sublocation) 11 ∧
      (ElementId.mk "inn_+007").Shows 7 ∧
      (pastAll strays).answers newcomers =
        [.ok ⟨"edge_18446744073709551615"⟩, .ok ⟨"event_8"⟩, .error (.idsExhausted .edge),
          .ok ⟨"loc_9"⟩] ∧
      .ok ⟨"inn_+007"⟩ ∉ (pastAll strays).answers newcomers ∧
      (ElementId.mk "loc_18446744073709551616").ordinal = none ∧
      .ok ⟨"loc_18446744073709551616"⟩ ∉
        (past ElementId.maxOrdinal.pred 0).answers [.node .location, .node .location] := by
  obtain ⟨again, distinct, shown, -, kept, ignored⟩ := identities_correspond
  refine ⟨(again .edge _ (Nat.le_refl _)).1, ?_, (shown _ 7).1 (by decide +kernel),
    by decide +kernel, ?_, by decide +kernel, ?_⟩
  · have kinds : ((.node .location, 11) : IdKind × Nat) ≠ (.node .sublocation, 11) := by decide
    exact distinct.ne kinds
  · exact (kept strays newcomers).1 _ (List.mem_cons_self ..)
  · exact ignored _ (by decide +kernel) _ 0 _

end Numbering

end StoryWorld

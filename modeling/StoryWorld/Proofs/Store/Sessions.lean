import StoryWorld.Store.Operation

/-!
# What is done along a run

A claim about an editing session takes for granted that certain operations are not carried out
while it lasts, or only in certain stores. `Store.Along` says so for every operation of a run and
the store that it is asked of. A refused operation changes nothing, so nothing is asked of it.
-/

set_option autoImplicit false

namespace StoryWorld

/-- The operation has been carried out. -/
def Reply.isAccepted : Reply → Bool
  | .refused _ => false
  | _ => true

namespace Store

/-- Each operation of a run that is carried out is allowed in the store that it is asked of. -/
def Along (allowed : Store → Operation → Prop) : Store → List Operation → Prop
  | _, [] => True
  | store, operation :: rest =>
    ((store.step operation).2.isAccepted = true → allowed store operation) ∧
      Along allowed (store.step operation).1 rest

instance decidableAlong (allowed : Store → Operation → Prop)
    [∀ store operation, Decidable (allowed store operation)] :
    ∀ store operations, Decidable (Along allowed store operations)
  | _, [] => .isTrue trivial
  | store, operation :: rest =>
    have := decidableAlong allowed (store.step operation).1 rest
    inferInstanceAs (Decidable ((_ → allowed store operation) ∧ _))

variable {store : Store}

/-- A change that succeeds is carried out. -/
theorem isAccepted_settle {α : Type} {attempt : Except Refusal α} {accept : α → Store × Reply}
    {result : α} (made : attempt = .ok result) (answers : (accept result).2.isAccepted = true) :
    (store.settle attempt accept).2.isAccepted = true := by
  rw [made]
  exact answers

/-- What is allowed along a run is so along its beginning. -/
theorem Along.take {allowed : Store → Operation → Prop} {operations : List Operation}
    (along : Along allowed store operations) (count : Nat) :
    Along allowed store (operations.take count) := by
  induction operations generalizing store count with
  | nil => rwa [List.take_nil]
  | cons operation rest ih =>
    cases count with
    | zero => trivial
    | succ count => exact ⟨along.1, ih along.2 count⟩

end Store

end StoryWorld

import StoryWorld.Graph.Refusal

/-!
# Numbering

A numbering gives out identities. It holds the next ordinal of each scope, or none once the
greatest ordinal has been given out; it never starts over by itself, so no identity is given out
twice. Reseeding makes it continue past the ordinals of identities that are there already.
-/

set_option autoImplicit false

namespace StoryWorld

/-- The next ordinals of the two scopes. -/
structure Numbering where
  nextNode : Option Nat
  nextEdge : Option Nat
  deriving DecidableEq

namespace Numbering

/-- The numbering that has given out nothing. -/
def start : Numbering := ⟨some 1, some 1⟩

/-- The ordinal after another, if there is one. -/
def successor? (ordinal : Nat) : Option Nat :=
  if ordinal < ElementId.maxOrdinal then some (ordinal + 1) else none

/-- The next ordinal of a scope. -/
def next? (numbering : Numbering) : IdScope → Option Nat
  | .node => numbering.nextNode
  | .edge => numbering.nextEdge

/-- The numbering with another next ordinal in one scope. -/
def setNext (numbering : Numbering) (next : Option Nat) : IdScope → Numbering
  | .node => { numbering with nextNode := next }
  | .edge => { numbering with nextEdge := next }

/-- A new identity for something of the given kind, and the numbering after it. -/
def allocate (numbering : Numbering) (kind : IdKind) : Except Refusal (ElementId × Numbering) :=
  match numbering.next? kind.scope with
  | none => .error (.idsExhausted kind.scope)
  | some ordinal =>
    .ok (.numbered kind ordinal, numbering.setNext (successor? ordinal) kind.scope)

/-- The numbering that continues past the given ordinals. -/
def past (lastNode lastEdge : Nat) : Numbering := ⟨successor? lastNode, successor? lastEdge⟩

/-- The greatest ordinal in a scope among identities; zero if there is none. -/
def greatest (scope : IdScope) (ids : List ElementId) : Nat :=
  ids.foldl
    (fun last id => if id.scope = scope then max last (id.ordinal.getD 0) else last) 0

/-- The numbering that continues past identities. Those without an ordinal cannot be given out and
count for nothing. -/
def pastAll (ids : List ElementId) : Numbering := past (greatest .node ids) (greatest .edge ids)

@[simp] theorem next?_setNext (numbering : Numbering) (next : Option Nat) (scope other : IdScope) :
    (numbering.setNext next scope).next? other =
      if other = scope then next else numbering.next? other := by
  cases scope <;> cases other <;> rfl

end Numbering

end StoryWorld

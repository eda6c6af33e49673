import StoryWorld.Table

/-!
# JSON values

A JSON value as the rest of the library sees it: numbers are either integers or finite doubles, and
the members of an object are listed in order. A text gives an object no key twice, and the writers
of this library do not either.

Equality of values is decidable, and tells an integer from the double of the same size.
-/

set_option autoImplicit false

namespace StoryWorld

/-- A JSON value. -/
inductive Json where
  | null
  | boolean (value : Bool)
  | integer (value : Int)
  | double (value : Float) (finite : value.isFinite = true)
  | string (value : String)
  | array (items : List Json)
  | object (members : List (String × Json))

namespace Json

instance : Inhabited Json := ⟨.null⟩

mutual
/-- Whether two values are the same. -/
def same : Json → Json → Bool
  | .null, .null => true
  | .boolean a, .boolean b => a == b
  | .integer a, .integer b => a == b
  | .double a _, .double b _ => decide (a = b)
  | .string a, .string b => a == b
  | .array as, .array bs => sameItems as bs
  | .object as, .object bs => sameMembers as bs
  | _, _ => false

/-- Whether two lists hold the same values. -/
def sameItems : List Json → List Json → Bool
  | [], [] => true
  | a :: as, b :: bs => same a b && sameItems as bs
  | _, _ => false

/-- Whether two lists hold the same keys with the same values. -/
def sameMembers : List (String × Json) → List (String × Json) → Bool
  | [], [] => true
  | (k, a) :: as, (l, b) :: bs => k == l && same a b && sameMembers as bs
  | _, _ => false
end

mutual
theorem same_iff : ∀ a b : Json, same a b = true ↔ a = b
  | .null, b => by cases b <;> simp [same]
  | .boolean a, b => by cases b <;> simp [same]
  | .integer a, b => by cases b <;> simp [same]
  | .double a finite, b => by cases b <;> simp [same]
  | .string a, b => by cases b <;> simp [same]
  | .array as, b => by cases b <;> simp [same, sameItems_iff as]
  | .object as, b => by cases b <;> simp [same, sameMembers_iff as]

theorem sameItems_iff : ∀ as bs : List Json, sameItems as bs = true ↔ as = bs
  | [], bs => by cases bs <;> simp [sameItems]
  | a :: as, bs => by cases bs <;> simp [sameItems, same_iff a, sameItems_iff as]

theorem sameMembers_iff : ∀ as bs : List (String × Json), sameMembers as bs = true ↔ as = bs
  | [], bs => by cases bs <;> simp [sameMembers]
  | (k, a) :: as, bs => by
    cases bs with
    | nil => simp [sameMembers]
    | cons b bs => simp [sameMembers, same_iff a, sameMembers_iff as, Prod.ext_iff]
end

instance : DecidableEq Json := fun a b => decidable_of_iff _ (same_iff a b)

/-- A double as a value; what is not finite has no number and becomes null. -/
def ofFloat (x : Float) : Json := if finite : x.isFinite = true then .double x finite else .null

/-- A natural number as a value. -/
def ofNat (n : Nat) : Json := .integer n

/-- A list of strings as a value. -/
def ofStrings (texts : List String) : Json := .array (texts.map .string)

/-- A table with string keys as an object. -/
def ofTable {α : Type} (write : α → Json) (table : Table String α) : Json :=
  .object (table.entries.map fun entry => (entry.1, write entry.2))

/-- The value of an optional text, null if there is none. -/
def ofString? : Option String → Json
  | some text => .string text
  | none => .null

/-- The member of an object under a key. -/
def member? (key : String) : Json → Option Json
  | .object members => members.lookup key
  | _ => none

end Json

end StoryWorld

import StoryWorld.Json.Fault

/-!
# Readers of values

A reader takes a JSON value to a value of another type, or says why it cannot. Scalars have a
reader each; lists, tables and optional values are read with the reader of what they hold, from
left to right, so that the first fault in the text is the one reported.

An integer is taken where a double is wanted if there is a double near it.
-/

set_option autoImplicit false

namespace StoryWorld.Json

/-- Takes a JSON value to a value of another type. -/
abbrev Reader (α : Type) := Json → Except Fault α

namespace Reader

variable {α : Type}

/-- Reads a text. -/
def string : Reader String
  | .string text => .ok text
  | found => .error (.unexpected found "a string")

/-- Reads a truth value. -/
def boolean : Reader Bool
  | .boolean value => .ok value
  | found => .error (.unexpected found "a boolean")

/-- Reads a double; an integer stands for the double nearest to it. -/
def double : Reader Float
  | .double x _ => .ok x
  | .integer n =>
    let x := Float.ofInt n
    if x.isFinite then .ok x else .error (.unexpected (.integer n) "f64")
  | found => .error (.unexpected found "f64")

/-- Reads a counter. -/
def counter : Reader Nat
  | .integer n => if n < 0 then .error (.negative n) else .ok n.toNat
  | found => .error (.unexpected found "u64")

/-- Reads the items of an array from left to right. -/
def list (item : Reader α) : Reader (List α)
  | .array items => items.mapM item
  | found => .error (.unexpected found "a sequence")

/-- Reads the members of an object, the values with the given reader. -/
def table (value : Reader α) : Reader (Table String α)
  | .object members => do
    let pairs ← members.mapM fun member => do return (member.1, ← value member.2)
    return Table.ofList pairs
  | found => .error (.unexpected found "a map")

/-- Reads a value that may be null. -/
def optional (value : Reader α) : Reader (Option α)
  | .null => .ok none
  | found => (value found).map some

/-- Reads a value that may be null, which means the default. -/
def orDefault (default : α) (value : Reader α) : Reader α
  | .null => .ok default
  | found => value found

/-- Reads one of several names. -/
def name (known : List (String × α)) : Reader α
  | .string text =>
    match known.lookup text with
    | some meant => .ok meant
    | none => .error (.unknownName text (known.map Prod.fst))
  | found => .error (.unexpected found "variant identifier")

/-- Reads one of several names, given as the name or as its position in the list. -/
def choice (known : List (String × α)) : Reader α
  | .integer n =>
    if n < 0 then .error (.unexpected (.integer n) "variant identifier")
    else
      match known[n.toNat]? with
      | some entry => .ok entry.2
      | none => .error (.unknownPosition n known.length)
  | found => name known found

end Reader

end StoryWorld.Json

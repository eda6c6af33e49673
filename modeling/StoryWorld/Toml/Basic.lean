/-!
# TOML values

A TOML value with what is needed to see whether a document may still add to a table. A table is
open to a header if it is only implied by longer headers, and open to dotted keys if dotted keys
have made it; a table that has had its header, or that stands inline, is complete.

`descend` walks along a path of keys, making the tables that are missing, and changes the table at
its end. The changes that a document makes are `define` for a key with its value, `openTable` for
the header of a table, and `openItem` for the header of a table in an array of tables. Each of them
fails when it would define something twice.
-/

set_option autoImplicit false

namespace StoryWorld

/-- How a table has come to be. -/
inductive TableForm where
  /-- By a header of its own. -/
  | headed
  /-- By a header of a table inside it. -/
  | implied
  /-- By a dotted key. -/
  | dotted
  /-- As a value between braces. -/
  | inline
  deriving DecidableEq

/-- A TOML value. -/
inductive Toml where
  | string (text : String)
  | integer (n : Int)
  | float (x : Float)
  | boolean (value : Bool)
  /-- A date, a time, or both. -/
  | moment
  | array (items : List Toml)
  | table (form : TableForm) (entries : List (String × Toml))
  /-- An array of tables, given by headers, the last one first. -/
  | tables (latestFirst : List Toml)

namespace Toml

instance : Inhabited Toml := ⟨.moment⟩

/-- The entries of a table. -/
abbrev Entries := List (String × Toml)

/-- Changes the value of a key, or gives it one, at the end. -/
def update (key : String) (change : Option Toml → Option Toml) : Entries → Option Entries
  | [] => (change none).map fun value => [(key, value)]
  | (other, value) :: rest =>
    if other = key then (change (some value)).map fun value => (other, value) :: rest
    else (update key change rest).map ((other, value) :: ·)

/-- Changes the table at the end of a path of keys, of which it is told the form. Along dotted keys,
missing tables are made as dotted ones, and tables with headers are closed; along headers,
missing tables are made as implied ones. An array of tables leads to its last table. -/
def descend (dotted : Bool) (change : TableForm → Entries → Option Entries) :
    (path : List String) → TableForm → Entries → Option Entries
  | [], form, entries => change form entries
  | key :: path, _, entries =>
    update key
      (fun
        | none =>
          let form := if dotted then TableForm.dotted else TableForm.implied
          (descend dotted change path form []).map (.table form)
        | some (.table form inner) =>
          if form = .inline ∨ (dotted = true ∧ form = .headed) then none
          else (descend dotted change path form inner).map (.table form)
        | some (.tables (.table form inner :: earlier)) =>
          (descend dotted change path form inner).map fun inner =>
            .tables (.table form inner :: earlier)
        | some _ => none)
      entries

/-- Gives a key of a table its value; the key may be dotted. A table that has not been made by
dotted keys is closed to them. -/
def define (path : List String) (key : String) (value : Toml) (entries : Entries) :
    Option Entries :=
  descend true
    (fun form inner =>
      if path ≠ [] ∧ form ≠ .dotted then none
      else update key (fun | none => some value | some _ => none) inner)
    path .headed entries

/-- Opens the table of a header. -/
def openTable (path : List String) (key : String) (entries : Entries) : Option Entries :=
  descend false
    (fun _ inner =>
      update key
        (fun
          | none => some (.table .headed [])
          | some (.table .implied inner) => some (.table .headed inner)
          | some _ => none)
        inner)
    path .headed entries

/-- Opens the next table of an array of tables. -/
def openItem (path : List String) (key : String) (entries : Entries) : Option Entries :=
  descend false
    (fun _ inner =>
      update key
        (fun
          | none => some (.tables [.table .headed []])
          | some (.tables earlier) => some (.tables (.table .headed [] :: earlier))
          | some _ => none)
        inner)
    path .headed entries

/-- Gives a key its value in the table at the end of a path of headers. -/
def defineIn (table path : List String) (key : String) (value : Toml) (entries : Entries) :
    Option Entries :=
  descend false (fun _ inner => define path key value inner) table .headed entries

end Toml

end StoryWorld

import StoryWorld.Json.Reader

/-!
# Readers of records

The fields of a record are described one after another, each by its key, the reader of its value,
and what holds when it is missing. From this description a record is read from an object in two
steps. First every member with a known key is read, in the order of the object, so that the first
unreadable member is the fault; then the record is built from the members found under its keys, in
the order of the fields, so that the first missing required field is the fault. Members with other
keys are left alone.

The record that is read depends on the object only through the member found under each key.

A record that has nothing but its fields may also be given as an array of their values.
-/

set_option autoImplicit false

namespace StoryWorld.Json

/-- A description of the fields of a record. -/
structure Fields (α : Type) where
  /-- The keys, in the order of the fields. -/
  keys : List String
  /-- Reads the value of one member for its faults. -/
  check : String → Json → Except Fault Unit
  /-- The record built from what is found under its keys. -/
  build : (String → Option Json) → Except Fault α

namespace Fields

variable {α β : Type}

/-- A record without fields. -/
protected def pure (value : α) : Fields α := ⟨[], fun _ _ => .ok (), fun _ => .ok value⟩

/-- A record with the fields of two others, in order. -/
protected def seq (first : Fields (α → β)) (second : Fields α) : Fields β where
  keys := first.keys ++ second.keys
  check key value := do
    first.check key value
    second.check key value
  build find := do
    let f ← first.build find
    let value ← second.build find
    return f value

instance : Applicative Fields where
  pure := Fields.pure
  seq first second := Fields.seq first (second ())

/-- One field, and what holds when it is missing. -/
def field (key : String) (reader : Reader α) (missing : Except Fault α) : Fields α where
  keys := [key]
  check other value := if other = key then (reader value).map fun _ => () else .ok ()
  build find :=
    match find key with
    | some value => reader value
    | none => missing

/-- A field that has to be there. -/
def required (key : String) (reader : Reader α) : Fields α :=
  field key reader (.error (.missingField key))

/-- A field with a default. -/
def withDefault (key : String) (default : α) (reader : Reader α) : Fields α :=
  field key reader (.ok default)

/-- Reads a record from the members of an object. -/
def readMembers (fields : Fields α) (members : List (String × Json)) : Except Fault α := do
  members.forM fun member => fields.check member.1 member.2
  fields.build fun key => members.lookup key

/-- Reads a record from the items of an array, which stand for its fields in order. The texts say
what is wanted when there are too few items and when there are too many. -/
def readItems (fields : Fields α) (wanted fewer : String) (items : List Json) : Except Fault α := do
  let members := fields.keys.zip items
  members.forM fun member => fields.check member.1 member.2
  let record ←
    match fields.build fun key => members.lookup key with
    | .error (.missingField _) =>
      .error (.tooShort items.length wanted fields.keys.length)
    | result => result
  if fields.keys.length < items.length then .error (.tooLong items.length fewer)
  return record

/-- Reads a record from an object or an array. -/
def reader (fields : Fields α) (wanted : String) : Reader α
  | .object members => fields.readMembers members
  | .array items => fields.readItems wanted "fewer elements in array" items
  | found => .error (.unexpected found wanted)

end Fields

end StoryWorld.Json

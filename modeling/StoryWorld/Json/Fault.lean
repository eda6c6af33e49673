import StoryWorld.Json.Printer
import StoryWorld.Text.Quoted

/-!
# Why a value cannot be read

A reader of JSON values expects a shape. A fault says what was found in its place, or what is
missing or too much; `Fault.message` words it for the author of the value.
-/

set_option autoImplicit false

namespace StoryWorld.Json

/-- Why a value does not have the shape it is read as. -/
inductive Fault where
  /-- A value of another kind than the wanted one. -/
  | unexpected (found : Json) (wanted : String)
  /-- A negative integer where a counter is wanted. -/
  | negative (found : Int)
  /-- A required field is not there. -/
  | missingField (name : String)
  /-- A name that is none of the known ones. -/
  | unknownName (found : String) (known : List String)
  /-- A position in a list of names that is beyond its end. -/
  | unknownPosition (found : Int) (count : Nat)
  /-- A value that fits none of the shapes that are allowed. -/
  | noAlternative (wanted : String)
  /-- A record given as an array that ends before its required fields do. -/
  | tooShort (length : Nat) (wanted : String) (fields : Nat)
  /-- A record given as an array with more items than it has fields. -/
  | tooLong (length : Nat) (wanted : String)
  deriving DecidableEq

/-- What kind of value has been found; numbers, texts and truth values are shown. -/
def described : Json → String
  | .null => "null"
  | .boolean value => "boolean " ++ Text.ticked (if value then "true" else "false")
  | .integer n => "integer " ++ Text.ticked (integerText n)
  | .double x _ => "floating point " ++ Text.ticked (doubleText x)
  | .string text => "string " ++ Text.quoted text
  | .array _ => "sequence"
  | .object _ => "map"

/-- The wording of a fault. -/
def Fault.message : Fault → String
  | .unexpected found wanted => "invalid type: " ++ found.described ++ ", expected " ++ wanted
  | .negative found =>
    "invalid value: integer " ++ Text.ticked (integerText found) ++ ", expected u64"
  | .missingField name => "missing field " ++ Text.ticked name
  | .unknownName found known =>
    "unknown variant " ++ Text.ticked found ++ ", expected one of " ++
      ", ".intercalate (known.map Text.ticked)
  | .unknownPosition found count =>
    "invalid value: integer " ++ Text.ticked (integerText found) ++
      ", expected variant index 0 <= i < " ++ integerText count
  | .noAlternative wanted => "data did not match any variant of untagged enum " ++ wanted
  | .tooShort length wanted fields =>
    "invalid length " ++ integerText length ++ ", expected " ++ wanted ++ " with " ++
      integerText fields ++ " elements"
  | .tooLong length wanted => "invalid length " ++ integerText length ++ ", expected " ++ wanted

end StoryWorld.Json

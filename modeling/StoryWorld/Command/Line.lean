/-!
# The command line

The arguments of the program name a command with its input and switches:

- `compile INPUT [-o FILE] [--wrapped]` writes the lorebook of a world;
- `import INPUT [-o FILE]` writes the world of a lorebook;
- `check INPUT` compares a lorebook with what is left of it after an import.

The switches `-v` and `-c FILE` may stand before or after the command, and every level has `-h`.
Short switches may be joined, and the value of a switch may follow it at once or after an equals
sign; after two hyphens everything is an input. Arguments are taken from left to right, and the
first one that cannot be taken is the error; a value is only looked at when the next argument has
been taken. What follows a command is taken as a whole before the last value in front of it is
looked at.
-/

set_option autoImplicit false

namespace StoryWorld.Command

/-- The commands. -/
inductive Verb where
  | compile
  | importing
  | check
  deriving DecidableEq

/-- The names of the commands. -/
def verbs : List (String × Verb) :=
  [("compile", .compile), ("import", .importing), ("check", .check)]

/-- The switches. -/
inductive Switch where
  | verbose
  | config
  | output
  | wrapped
  | help
  | version
  deriving DecidableEq

/-- The long name of a switch. -/
def Switch.long : Switch → String
  | .verbose => "verbose"
  | .config => "config"
  | .output => "output"
  | .wrapped => "wrapped"
  | .help => "help"
  | .version => "version"

/-- The short name of a switch. -/
def Switch.short? : Switch → Option Char
  | .verbose => some 'v'
  | .config => some 'c'
  | .output => some 'o'
  | .wrapped => none
  | .help => some 'h'
  | .version => some 'V'

/-- Whether a switch needs a value. -/
def Switch.takesValue : Switch → Bool
  | .config | .output => true
  | _ => false

/-- The switches before the command, and those after each command. -/
def switchesAt : Option Verb → List Switch
  | none => [.verbose, .config, .help, .version]
  | some .compile => [.verbose, .config, .output, .wrapped, .help]
  | some .importing => [.verbose, .config, .output, .help]
  | some .check => [.verbose, .config, .help]

/-- Why arguments are not carried out. -/
inductive UsageError where
  /-- A command without its input. -/
  | missingInput
  /-- Something that there is no place for. -/
  | unknownArgument
  /-- A switch that has been given before. -/
  | repeated
  /-- A switch without its value, or an empty one. -/
  | missingValue
  /-- A value for a switch that takes none. -/
  | unwantedValue
  | unknownCommand
  /-- Switches, but no command. -/
  | missingCommand
  /-- Nothing at all. -/
  | nothing
  | help
  | version
  deriving DecidableEq

/-- What can have a value: a switch, or the input. -/
inductive Slot where
  | switch (switch : Switch)
  | input
  deriving DecidableEq

/-- What has been taken from the arguments of one level. -/
structure Taken where
  /-- The switches without values that are set. -/
  flags : List Switch
  /-- The values that have been looked at. -/
  values : List (Slot × String)
  /-- The value that has not been looked at, or a switch that waits for its value. -/
  pending : Option (Slot × Option String)
  /-- Whether the input has been given. -/
  hasInput : Bool
  /-- Whether two hyphens have been met. -/
  plain : Bool

namespace Taken

/-- Nothing. -/
def start : Taken := ⟨[], [], none, false, false⟩

/-- Whether a switch waits for its value. -/
def isWaiting (taken : Taken) : Bool :=
  match taken.pending with
  | some (_, none) => true
  | _ => false

/-- The value of a slot. -/
def value? (taken : Taken) (slot : Slot) : Option String := taken.values.lookup slot

/-- Looks at the value of a slot. -/
def accept (taken : Taken) (slot : Slot) (value : String) : Except UsageError Taken :=
  if (taken.value? slot).isSome then .error .repeated
  else if value = "" then .error .missingValue
  else .ok { taken with values := taken.values ++ [(slot, value)] }

/-- Looks at the value that has not been looked at. -/
def settle (taken : Taken) : Except UsageError Taken :=
  match taken.pending with
  | none => .ok taken
  | some (_, none) => .error .missingValue
  | some (slot, some value) => accept { taken with pending := none } slot value

/-- Takes a switch without a value. -/
def raise (taken : Taken) (switch : Switch) : Except UsageError Taken := do
  let taken ← taken.settle
  match switch with
  | .help => throw .help
  | .version => throw .version
  | _ =>
    if switch ∈ taken.flags then throw .repeated
    return { taken with flags := taken.flags ++ [switch] }

/-- Takes a switch with a value, which may have been given with it. -/
def expect (taken : Taken) (switch : Switch) : (value : Option String) → Except UsageError Taken
  | some value => do accept (← taken.settle) (.switch switch) value
  | none => do return { ← taken.settle with pending := some (.switch switch, none) }

/-- Takes a long switch after its two hyphens. -/
def takeLong (level : Option Verb) (taken : Taken) (argument : List Char) :
    Except UsageError Taken :=
  let name := String.ofList (argument.takeWhile (· ≠ '='))
  let value :=
    match argument.dropWhile (· ≠ '=') with
    | _ :: value => some (String.ofList value)
    | [] => none
  match (switchesAt level).find? fun switch => decide (switch.long = name) with
  | none => .error .unknownArgument
  | some switch =>
    if switch.takesValue then taken.expect switch value
    else if value.isSome then .error .unwantedValue
    else taken.raise switch

/-- Takes joined short switches after their hyphen. What follows a switch that needs a value is its
value. -/
def takeShort (level : Option Verb) (taken : Taken) : List Char → Except UsageError Taken
  | [] => .ok taken
  | c :: rest =>
    match (switchesAt level).find? fun switch => decide (switch.short? = some c) with
    | none => .error .unknownArgument
    | some switch =>
      if switch.takesValue then
        taken.expect switch
          (match rest with
          | [] => none
          | '=' :: value => some (String.ofList value)
          | value => some (String.ofList value))
      else do takeShort level (← taken.raise switch) rest

/-- Takes an argument that is no switch. -/
def takePlain (level : Option Verb) (taken : Taken) (argument : String) :
    Except UsageError Taken :=
  match level with
  | none =>
    if taken.plain ∧ (verbs.lookup argument).isSome then .error .unknownArgument
    else if taken.plain ∧ argument = "help" then .error .unknownArgument
    else .error .unknownCommand
  | some _ =>
    if taken.hasInput then .error .unknownArgument
    else do
      return { ← taken.settle with pending := some (.input, some argument), hasInput := true }

/-- Takes one argument. -/
def take (level : Option Verb) (taken : Taken) (argument : String) : Except UsageError Taken :=
  if taken.plain then taken.takePlain level argument
  else
    match argument.toList with
    | ['-', '-'] => .ok { taken with plain := true }
    | '-' :: '-' :: long => taken.takeLong level long
    | '-' :: c :: short => taken.takeShort level (c :: short)
    | _ =>
      match taken.pending with
      | some (slot, none) => .ok { taken with pending := some (slot, some argument) }
      | _ => taken.takePlain level argument

/-- Takes all arguments of a level. -/
def takeAll (level : Option Verb) (arguments : List String) : Except UsageError Taken := do
  (← arguments.foldlM (take level) start).settle

end Taken

/-- What the program is asked to do. -/
structure Invocation where
  verb : Verb
  input : String
  output : Option String
  wrapped : Bool
  config : Option String
  deriving DecidableEq

/-- Answers a request for help about a command. -/
def helpAbout : List String → UsageError
  | [] => .help
  | [name] => if name = "help" ∨ (verbs.lookup name).isSome then .help else .unknownCommand
  | _ => .unknownCommand

/-- What is asked after the command. -/
def parseCommand (before : Taken) (verb : Verb) (arguments : List String) :
    Except UsageError Invocation := do
  let taken ← Taken.takeAll (some verb) arguments
  match taken.value? .input with
  | none => throw .missingInput
  | some input =>
    let before ← before.settle
    return {
      verb := verb
      input := input
      output := taken.value? (.switch .output)
      wrapped := decide (Switch.wrapped ∈ taken.flags)
      config := (taken.value? (.switch .config)).or (before.value? (.switch .config)) }

/-- What is asked by arguments, after those before the command that have been taken. -/
def parseFrom (taken : Taken) : (arguments : List String) → Except UsageError Invocation
  | [] => do
    let taken ← taken.settle
    throw (if taken.flags.isEmpty && taken.values.isEmpty then .nothing else .missingCommand)
  | argument :: rest =>
    if taken.plain || taken.isWaiting then do parseFrom (← taken.take none argument) rest
    else
      match verbs.lookup argument with
      | some verb => parseCommand taken verb rest
      | none =>
        if argument = "help" then .error (helpAbout rest)
        else do parseFrom (← taken.take none argument) rest

/-- What is asked by the arguments of the program. -/
def parse (arguments : List String) : Except UsageError Invocation := parseFrom .start arguments

end StoryWorld.Command

import StoryWorld.Command.Run

/-!
# The program

Carries out the command line with the files of the world. The results of commands go to the standard
output and all else to the standard error.
-/

set_option autoImplicit false

namespace StoryWorld.Command

/-- Reading and writing the files of the world. -/
def worldFiles : Files IO where
  read path := do
    try
      return some (← IO.FS.readFile path)
    catch _ => return none
  write path text := do
    try
      IO.FS.writeFile path text
      return true
    catch _ => return false

/-- The wording of arguments that are not carried out. -/
def UsageError.message : UsageError → String
  | .missingInput => "the command needs an input"
  | .unknownArgument => "there is an argument too many"
  | .repeated => "a switch is given twice"
  | .missingValue => "a switch needs a value"
  | .unwantedValue => "a switch takes no value"
  | .unknownCommand => "there is no such command"
  | .missingCommand | .nothing => "a command is needed"
  | .help => "commands: compile INPUT, import INPUT, check INPUT"
  | .version => "lorebook 0.1.0"

/-- Carries out arguments and gives the exit status. -/
def carryOut (arguments : List String) : IO UInt32 := do
  match parse arguments with
  | .error why =>
    if why = .help ∨ why = .version then
      IO.println why.message
      return 0
    IO.eprintln why.message
    return 2
  | .ok invocation =>
    match ← (run worldFiles invocation).run with
    | .error failure =>
      IO.eprintln failure.message
      return 1
    | .ok effect =>
      IO.print effect.output
      IO.eprint effect.messages
      return if effect.succeeded then 0 else 1

end StoryWorld.Command

/-- Runs the program. -/
def main (arguments : List String) : IO UInt32 := StoryWorld.Command.carryOut arguments

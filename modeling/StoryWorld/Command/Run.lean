import StoryWorld.Command.Line
import StoryWorld.Config.Toml
import StoryWorld.Graph.SnapshotText
import StoryWorld.Lore.Comparison
import StoryWorld.Lore.Writing

/-!
# Carrying out commands

A command reads its configuration, then its input, and writes its result to a file or to the
standard output. The commands are stated over any way to read and write files, so that they can be
carried out in a directory that is a value, or in the world.

A failed command tells what it was about before the cause of the failure.
-/

set_option autoImplicit false

namespace StoryWorld.Command

/-- Why a command fails. -/
inductive Failure where
  | unreadableConfig
  | malformedConfig
  | unreadable
  | malformed
  | unwritable
  /-- A world that is not valid, and what was being done. -/
  | refused (context : String) (why : Refusal)
  /-- A lorebook that cannot be imported, and what was being done. -/
  | notImported (context : String) (why : ImportError)

/-- What a command leaves behind, apart from files. -/
structure Effect where
  succeeded : Bool
  output : String
  messages : String

/-- How files are read and written. -/
structure Files (m : Type → Type) where
  read : String → m (Option String)
  write : String → String → m Bool

section Monadic

variable {m : Type → Type} [Monad m]

/-- Reads a file or fails. -/
def readOr (files : Files m) (path : String) (failure : Failure) : ExceptT Failure m String := do
  match ← files.read path with
  | some text => return text
  | none => throw failure

/-- The configuration of an invocation. -/
def configOf (files : Files m) (path : Option String) : ExceptT Failure m Config := do
  match path with
  | none => return {}
  | some path =>
    match Config.parse (← readOr files path .unreadableConfig) with
    | some config => return config
    | none => throw .malformedConfig

/-- Writes a result to a file, if there is one, and tells what is left for the standard output. -/
def deliver (files : Files m) (path : Option String) (value : Json) :
    ExceptT Failure m String := do
  let text := value.pretty ++ "\n"
  match path with
  | none => return text
  | some path =>
    if ← files.write path text then return "" else throw .unwritable

/-- Reads a JSON file. -/
def readDocument (files : Files m) (path : String) : ExceptT Failure m Json := do
  match Json.parse (← readOr files path .unreadable) with
  | some document => return document
  | none => throw .malformed

/-- Writes the lorebook of a world. -/
def runCompile (files : Files m) (invocation : Invocation) : ExceptT Failure m Effect := do
  let some world := Snapshot.parse (← readOr files invocation.input .unreadable)
    | throw .malformed
  match world.validate with
  | .error why => throw (.refused ("invalid graph in " ++ invocation.input) why)
  | .ok () =>
    let value :=
      if invocation.wrapped then (Document.wrap world.entries).toJson
      else Entry.listToJson world.entries
    return ⟨true, ← deliver files invocation.output value, ""⟩

/-- Writes the world of a lorebook. -/
def runImport (files : Files m) (config : Config) (invocation : Invocation) :
    ExceptT Failure m Effect := do
  match importJson config (← readDocument files invocation.input) with
  | .error why => throw (.notImported ("import " ++ invocation.input) why)
  | .ok outcome =>
    let output ← deliver files invocation.output outcome.world.toJson
    return ⟨true, output, outcome.report.summary ++ "\n"⟩

/-- The last line of a comparison. -/
def verdict (comparison : Comparison) : String :=
  if comparison.isConsistent then "ok: lorebook round-trips"
  else Json.integerText comparison.mismatches.length ++ " mismatch(es)"

/-- Compares a lorebook with what is left of it after an import. -/
def runCheck (files : Files m) (config : Config) (invocation : Invocation) :
    ExceptT Failure m Effect := do
  match compareRoundTrip config (← readDocument files invocation.input) with
  | .error why => throw (.notImported ("check " ++ invocation.input) why)
  | .ok comparison =>
    let lines := comparison.mismatches.map Mismatch.message ++ [verdict comparison]
    return ⟨comparison.isConsistent, String.join (lines.map (· ++ "\n")),
      comparison.report.summary ++ "\n"⟩

/-- Carries out what has been asked. -/
def run (files : Files m) (invocation : Invocation) : ExceptT Failure m Effect := do
  let config ← configOf files invocation.config
  match invocation.verb with
  | .compile => runCompile files invocation
  | .importing => runImport files config invocation
  | .check => runCheck files config invocation

end Monadic

/-- The wording of a failure. -/
def Failure.message : Failure → String
  | .unreadableConfig => "the configuration cannot be read"
  | .malformedConfig => "the configuration is malformed"
  | .unreadable => "the input cannot be read"
  | .malformed => "the input is malformed"
  | .unwritable => "the output cannot be written"
  | .refused context why => context ++ ": " ++ why.message
  | .notImported context why => context ++ ": " ++ why.message

end StoryWorld.Command

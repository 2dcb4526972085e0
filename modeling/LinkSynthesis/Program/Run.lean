import LinkSynthesis.Action.Description
import LinkSynthesis.Command.FinalCommand
import LinkSynthesis.Program.Folder
import LinkSynthesis.Program.Options
import LinkSynthesis.Toolchain.Setting

/-!
# Runs

One run of the program: both documents are read, the action is checked, its command is assembled
and printed. Files are read through a function, so a run is a plain value. Errors of documents are
reported; a value of a shape that the checks do not foresee breaks the run off instead.
-/

namespace LinkSynthesis.Program
open Json (Value)

/-- Why a run prints no command. -/
inductive RunError where
  /-- An option that is there names no file, or no text to put in front. -/
  | noText (option : String)
  | file (error : FileError)
  | toolchainNotMapping (name : String)
  | setting (error : Toolchain.SettingError)
  | linkNotMapping (name : String)
  | description (error : DescriptionError)
  | assembly (error : AssemblyError)

namespace RunError

/-- The text of the error. An option without a text breaks the run off; its text is this library's
own. -/
def message : RunError → String
  | .noText option => "no text is given to " ++ option
  | .file error => error.message
  | .toolchainNotMapping name => "toolchain: " ++ name ++ ": top level must be a mapping"
  | .setting error => error.message
  | .linkNotMapping name => name ++ ": top level must be a mapping"
  | .description error => error.message
  | .assembly error => error.message

/-- The error is reported as such; any other breaks the run off. -/
def isReported : RunError → Bool
  | .noText _ => false
  | .setting (.notMapping _) => false
  | .setting (.groupsNotMapping _) => false
  | .description (.notObject _) => false
  | .description (.nothingToList _) => false
  | .description (.pathNotText _) => false
  | .assembly .absentArtifact => false
  | _ => true

end RunError

/-- What a run prints. -/
structure Report where
  stdout : String
  stderr : String
deriving DecidableEq

/-- The name of the file that an option gives, and its document. -/
def load (read : String → Except FileError Value) (option : String) (file : OptionText) :
    Except RunError (String × Value) :=
  match file with
  | .given name => ((read name).mapError .file).map (name, ·)
  | .takenOut => .error (.noText option)

/-- Reads the toolchain. A document that is null is an empty one. -/
def loadToolchain (read : String → Except FileError Value) (file : OptionText) :
    Except RunError Toolchain := do
  match ← load read "--toolchain" file with
  | (_, .null) => return {}
  | (_, .obj members) => (Toolchain.ofMembers members).mapError .setting
  | (name, _) => throw (.toolchainNotMapping name)

/-- Reads the action. A document that says nothing is an empty one. -/
def loadAction (read : String → Except FileError Value) (file : OptionText) (tc : Toolchain) :
    Except RunError Action := do
  let (name, document) ← load read "--link" file
  match if document.isTruthy then document else .obj [] with
  | .obj members => (Action.ofDescription members tc).mapError .description
  | _ => throw (.linkNotMapping name)

/-- The command with linkstamp objects behind a prefix that has no text. That is noticed when the
first compile is written, so an action without linkstamps has its command. -/
def commandWithoutPrefix (a : Action) (raw : List String) : Except RunError (List String) := do
  let first := { a with linkstamps := a.linkstamps.take 1 }
  if (← (first.stampCommands "").mapError .assembly).isEmpty then return raw
  throw (.noText "--output-prefix")

/-- The command that the options ask for. The raw command is assembled in any case. -/
def command (options : Options) (a : Action) : Except RunError (List String) := do
  let raw ← a.rawCommand.mapError .assembly
  match options.outputPrefix with
  | some (.given objectPrefix) => (a.finalCommandOfQuoted raw objectPrefix).mapError .assembly
  | some .takenOut => commandWithoutPrefix a raw
  | none => if options.raw then return raw else (a.finalCommand raw).mapError .assembly

/-- What is linked, in one line. -/
def summary (a : Action) : String :=
  let count (n : Nat) := String.ofList (Nat.toDigits 10 n)
  "link_helper: " ++ a.target.keyword ++ " (" ++ a.staticness.keyword ++ ") -> " ++
    (a.output.map Artifact.execPath).getD "" ++ ", " ++ count a.linkerInputs.length ++
    " inputs, " ++ count a.linkstamps.length ++ " linkstamps"

/-- A run with the given options. -/
def run (read : String → Except FileError Value) (options : Options) : Except RunError Report := do
  let tc ← loadToolchain read options.toolchain
  let a ← loadAction read options.link tc
  let words ← command options a
  return {
    stdout := options.format.render words ++ "\n"
    stderr := if options.verbose then summary a ++ "\n" else "" }

/-- How a run ends, as it is seen from outside. -/
inductive Ending where
  | exits (code : UInt32) (stdout stderr : String)
  /-- The run is broken off, and nothing is reported. -/
  | brokenOff (reason : String)
deriving DecidableEq

/-- The ending of a run. -/
def ending : Except RunError Report → Ending
  | .ok report => .exits 0 report.stdout report.stderr
  | .error e =>
    if e.isReported then .exits 1 "" ("error: " ++ e.message ++ "\n") else .brokenOff e.message

end LinkSynthesis.Program

import LinkSynthesis.Json.Reader
import LinkSynthesis.Program.Run

/-!
# Command line

Reads the words of the command line and the two documents, runs the program and prints what it
says. Exit codes: 0 a command was printed, 1 the documents are not right, 2 the command line is not.
-/

namespace LinkSynthesis.Program

/-- The help text. -/
def helpText : String :=
  "usage: link-helper --toolchain TOOLCHAIN --link LINK [--raw]\n" ++
    "                   [--output-prefix OUTPUT_PREFIX] [--format json|shell|lines] [--verbose]\n"

/-- The code of the system for a directory where a file is needed. -/
def directoryCode : UInt32 := 21

/-- The document of a file. A blank file holds an empty one. -/
def readDocument (file : String) : IO (Except FileError Json.Value) := do
  if let some error := FileError.ofName? file then return .error error
  try
    let text ← IO.FS.readFile file
    if text.all Char.isWhitespace then return .ok .null
    match Json.parse text with
    | some document => return .ok document
    | none => return .error (.unreadable file)
  catch error =>
    match error with
    | .noFileOrDirectory .. => return .error (.notFound file)
    | .invalidArgument .. => return .error (.nameTooLong file)
    | .inappropriateType _ code _ =>
      return .error (if code = directoryCode then .isDirectory file else .notDirectory file)
    | _ => return .error (.unreadable file)

/-- Prints what a run leaves. One that is broken off at least says why. -/
def printEnding : Ending → IO UInt32
  | .exits code stdout stderr => do
    IO.eprint stderr
    IO.print stdout
    return code
  | .brokenOff reason => do
    IO.eprintln ("broken off: " ++ reason)
    return 1

end LinkSynthesis.Program

open LinkSynthesis.Program in
/-- Runs the program on a command line. -/
def main (words : List String) : IO UInt32 := do
  match Options.parse words with
  | .error .help =>
    IO.print helpText
    return 0
  | .error .usage =>
    IO.eprint helpText
    return 2
  | .ok options =>
    let names := [options.toolchain, options.link].filterMap OptionText.text?
    let documents ← names.mapM fun name => return (name, ← readDocument name)
    let read (name : String) := (documents.lookup name).getD (.error (.notFound name))
    printEnding (ending (run read options))

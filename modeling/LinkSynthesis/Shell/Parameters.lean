/-!
# Scripts with parameters

What a script runs when the shell is called with it: `sh -c script name argument ...`. Scripts of one
kind are read. They keep single parameters in variables and shift the arguments, and then run a
chain of commands. Each word of these is a parameter in double quotes, which stands for one word
whatever it holds, or all the arguments (`"$@"`), each of which stands for one. A script of any other
kind is refused, and so is one that uses a parameter without a value or shifts more arguments than
there are.
-/

namespace LinkSynthesis.Shell

/-- A parameter that stands for one word. -/
inductive Parameter where
  /-- The name of the call is at position 0, the arguments follow. -/
  | position (n : Nat)
  | variable (name : String)
deriving DecidableEq

/-- A word of a command. -/
inductive ScriptWord where
  | one (parameter : Parameter)
  | arguments
deriving DecidableEq

/-- A statement in front of the commands. -/
inductive Statement where
  | assign (name : String) (value : Parameter)
  | shift (n : Nat)
deriving DecidableEq

/-- A script: statements, and commands that are run one after another while they succeed. -/
structure Script where
  statements : List Statement
  commands : List (List ScriptWord)
deriving DecidableEq

/-! ### Reading scripts -/

/-- A digit as a number. -/
def digit? (c : Char) : Option Nat := if c.isDigit then some (c.toNat - '0'.toNat) else none

/-- The name of a variable. -/
def isName (name : List Char) : Bool :=
  match name with
  | [] => false
  | first :: rest => (first.isAlpha || first == '_') && rest.all fun c => c.isAlphanum || c == '_'

/-- The pieces between blanks. -/
def pieces (text : List Char) : List (List Char) := (text.splitOn ' ').filter (· ≠ [])

/-- A parameter in double quotes, with a dollar sign in front. -/
def Parameter.ofChars? (word : List Char) : Option Parameter :=
  match word with
  | '\x22' :: '$' :: rest =>
    if rest.getLast? ≠ some '\x22' then none
    else if isName rest.dropLast then some (.variable (.ofList rest.dropLast))
    else match rest.dropLast with
      | [c] => (digit? c).map .position
      | _ => none
  | _ => none

/-- A word of a command. -/
def ScriptWord.ofChars? (word : List Char) : Option ScriptWord :=
  if word = ['\x22', '$', '@', '\x22'] then some .arguments
  else (Parameter.ofChars? word).map .one

/-- An assignment, or the shift by a digit. -/
def Statement.ofChars? (text : List Char) : Option Statement :=
  match pieces text with
  | [assignment] =>
    match assignment.splitOn '=' with
    | [name, value] =>
      if isName name then (Parameter.ofChars? value).map (.assign (.ofList name)) else none
    | _ => none
  | [command, [n]] => if command = "shift".toList then (digit? n).map .shift else none
  | _ => none

/-- A command of at least one word. -/
def readCommand? (words : List (List Char)) : Option (List ScriptWord) :=
  if words = [] then none else words.mapM ScriptWord.ofChars?

/-- A script. Semicolons stand behind its statements and `&&` between its commands. -/
def Script.ofString? (text : String) : Option Script :=
  match (text.toList.splitOn ';').reverse with
  | [] => none
  | chain :: statements => do
    return {
      statements := ← statements.reverse.mapM Statement.ofChars?
      commands := ← ((pieces chain).splitOn ['&', '&']).mapM readCommand? }

/-! ### Running scripts -/

/-- What the parameters stand for. -/
structure Parameters where
  name : String
  arguments : List String
  /-- The variables with their values, the last assignment first. -/
  bindings : List (String × String) := []

namespace Parameters

/-- The value of a parameter, if it has one. -/
def value? (s : Parameters) : Parameter → Option String
  | .position 0 => some s.name
  | .position (n + 1) => s.arguments[n]?
  | .variable name => s.bindings.lookup name

/-- The words that a word of a script stands for. -/
def expand? (s : Parameters) : ScriptWord → Option (List String)
  | .one parameter => (s.value? parameter).map ([·])
  | .arguments => some s.arguments

/-- The parameters after a statement. -/
def step? (s : Parameters) : Statement → Option Parameters
  | .assign name value =>
    (s.value? value).map fun value => { s with bindings := (name, value) :: s.bindings }
  | .shift n =>
    if n ≤ s.arguments.length then some { s with arguments := s.arguments.drop n } else none

end Parameters

/-- The commands that a script runs, each as its words. -/
def Script.commands? (script : Script) (s : Parameters) : Option (List (List String)) := do
  let s ← script.statements.foldlM Parameters.step? s
  script.commands.mapM fun words => (words.mapM s.expand?).map List.flatten

/-- The commands that a shell runs which is called with a script and its parameters. -/
def callCommands? (call : List String) : Option (List (List String)) :=
  match call with
  | _ :: "-c" :: script :: name :: arguments =>
    (Script.ofString? script).bind fun script => script.commands? { name, arguments }
  | _ => none

end LinkSynthesis.Shell

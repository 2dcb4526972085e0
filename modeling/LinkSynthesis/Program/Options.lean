import LinkSynthesis.Command.Format
import LinkSynthesis.Text.DecimalDigit
import LinkSynthesis.Text.Pattern

/-!
# Command line options

The words of the command line are first told apart, each on its own: options, by their full name or
an unambiguous beginning of it, and values. Then the options are read from left to right; the last
of several wins. Words that belong to no option are refused at the end, unless a request for help
comes before it.

In two corners the releases of such readers differ, and the rule here is the one that the program
answers by. Two dashes that an equals sign attaches to an option are taken for the mark of the end
of the options and taken out, so the option is there without a text (`OptionText.takenOut`). Behind
`-h` an equals sign is passed over and any letter but `h` is refused (`helpRefusal`). Later releases
keep such dashes as a text, which is no format; they refuse an equals sign behind `-h`, and give help
before they look at other letters. By either rule a run does the same with an option that has a text.
-/

namespace LinkSynthesis.Program

/-- An option of the command line. -/
inductive OptionName where
  | help
  | toolchain
  | link
  | raw
  | outputPrefix
  | format
  | verbose
deriving DecidableEq, Repr

namespace OptionName

/-- The long names. -/
def longNames : List (String × OptionName) :=
  [("--help", .help), ("--toolchain", .toolchain), ("--link", .link), ("--raw", .raw),
   ("--output-prefix", .outputPrefix), ("--format", .format), ("--verbose", .verbose)]

/-- The option is followed by a value. -/
def takesValue : OptionName → Bool
  | .toolchain | .link | .outputPrefix | .format => true
  | .help | .raw | .verbose => false

end OptionName

/-- Why no options are read. -/
inductive Refusal where
  /-- The command line is not one of this program. -/
  | usage
  /-- The command line asks for help. -/
  | help
deriving DecidableEq, Repr

/-- A word of the command line, told apart. -/
inductive Word where
  | value (text : String)
  /-- An option, with the value that an equals sign attaches to it. -/
  | option (name : OptionName) (attached : Option String)
  /-- `-h`, with what follows it in the same word. -/
  | helpLetters (tail : List Char)
  /-- Looks like an option and is none. -/
  | stray
deriving DecidableEq, Repr

/-- A text as the number that an option may take for its value. -/
def negativeNumber : Text.Pattern :=
  let digit := Text.Pattern.one Text.isDecimalDigit
  .seq (.literal "-") <| .alt (.oneOrMore digit) <|
    .seq (.many digit) <| .seq (.literal ".") (.oneOrMore digit)

/-- Tells apart a word that may be a value though it starts with a dash: a negative number, or a
text with a blank. -/
def Word.ofUnknown (text : String) : Word :=
  if negativeNumber.acceptsLine text.toList || text.toList.contains ' ' then .value text else .stray

/-- The text before the first equals sign, and the text behind it. -/
def splitAttached (text : List Char) : List Char × Option String :=
  match text.dropWhile (· != '=') with
  | [] => (text, none)
  | _ :: behind => (text.takeWhile (· != '='), some (.ofList behind))

/-- Tells a word apart. A beginning that several options share is refused. -/
def Word.ofText (text : String) : Except Refusal Word :=
  match text.toList with
  | '-' :: '-' :: letters =>
    let (start, attached) := splitAttached ('-' :: '-' :: letters)
    match OptionName.longNames.lookup (.ofList start) with
    | some name => .ok (.option name attached)
    | none =>
      match OptionName.longNames.filter fun entry => start.isPrefixOf entry.1.toList with
      | [] => .ok (.ofUnknown text)
      | [entry] => .ok (.option entry.2 attached)
      | _ => .error .usage
  | ['-'] => .ok (.value text)
  | '-' :: 'h' :: tail => .ok (.helpLetters tail)
  | '-' :: _ => .ok (.ofUnknown text)
  | _ => .ok (.value text)

/-- Tells all words apart. No word from `--` on belongs to an option. -/
def Word.ofTexts : List String → Except Refusal (List Word)
  | [] => .ok []
  | text :: rest =>
    if text = "--" then .ok [.stray]
    else do return (← ofText text) :: (← ofTexts rest)

/-- The letters behind `-h`, or behind an equals sign after it, are options too. There is none but
`-h` that has one letter, so any other character is refused. -/
def helpRefusal (tail : List Char) : Refusal :=
  let letters := match tail with
    | '=' :: letter :: letters => letter :: letters
    | tail => tail
  if letters.all (· == 'h') then .help else .usage

/-- What an option is given. -/
inductive OptionText where
  | given (text : String)
  /-- Two dashes, attached by an equals sign. They mark the end of the options and are taken out
  wherever they stand, so the option is there without a text. -/
  | takenOut
deriving DecidableEq, Repr

namespace OptionText

/-- What the value of an option gives it. -/
def ofValue (value : String) : OptionText := if value = "--" then .takenOut else .given value

/-- The text, if there is one. -/
def text? : OptionText → Option String
  | .given text => some text
  | .takenOut => none

end OptionText

/-- The options that have been read so far. -/
structure PartialOptions where
  toolchain : Option OptionText := none
  link : Option OptionText := none
  raw : Bool := false
  outputPrefix : Option OptionText := none
  format : CommandFormat := .json
  verbose : Bool := false
  /-- A word belongs to no option. -/
  stray : Bool := false

/-- The options of a run. -/
structure Options where
  /-- The file of the toolchain document. -/
  toolchain : OptionText
  /-- The file of the link description. -/
  link : OptionText
  /-- Print the raw command, without linkstamp compiles. -/
  raw : Bool := false
  /-- Take the link arguments for shell text, and put this in front of linkstamp objects. -/
  outputPrefix : Option OptionText := none
  format : CommandFormat := .json
  /-- Say on the error stream what is linked. -/
  verbose : Bool := false

namespace PartialOptions

/-- An option with its value. A format that is not named prints the words as they are. -/
def withValue (o : PartialOptions) (name : OptionName) (value : String) :
    Except Refusal PartialOptions :=
  match name, OptionText.ofValue value with
  | .toolchain, text => .ok { o with toolchain := text }
  | .link, text => .ok { o with link := text }
  | .outputPrefix, text => .ok { o with outputPrefix := text }
  | .format, .takenOut => .ok { o with format := .lines }
  | .format, .given word =>
    match CommandFormat.ofKeyword? word with
    | some format => .ok { o with format }
    | none => .error .usage
  | .help, _ | .raw, _ | .verbose, _ => .error .usage

/-- An option without value. -/
def withFlag (o : PartialOptions) : OptionName → Except Refusal PartialOptions
  | .raw => .ok { o with raw := true }
  | .verbose => .ok { o with verbose := true }
  | .help => .error .help
  | .toolchain | .link | .outputPrefix | .format => .error .usage

/-- Reads words from left to right. -/
def read (o : PartialOptions) : List Word → Except Refusal PartialOptions
  | [] => .ok o
  | .value _ :: rest => read { o with stray := true } rest
  | .stray :: rest => read { o with stray := true } rest
  | .helpLetters tail :: _ => .error (helpRefusal tail)
  | .option name (some value) :: rest => do read (← o.withValue name value) rest
  | .option name none :: .value value :: rest =>
    if name.takesValue then do read (← o.withValue name value) rest
    else do read { ← o.withFlag name with stray := true } rest
  | .option name none :: rest => do read (← o.withFlag name) rest

/-- The options of a run: both files are needed, and no word may be left over. -/
def finish (o : PartialOptions) : Except Refusal Options :=
  match o.toolchain, o.link with
  | some toolchain, some link =>
    if o.stray then .error .usage
    else .ok { toolchain, link, raw := o.raw, outputPrefix := o.outputPrefix, format := o.format,
               verbose := o.verbose }
  | _, _ => .error .usage

end PartialOptions

/-- Reads the words of a command line. -/
def Options.parse (words : List String) : Except Refusal Options := do
  (← PartialOptions.read {} (← Word.ofTexts words)).finish

end LinkSynthesis.Program

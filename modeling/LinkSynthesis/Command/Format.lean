import LinkSynthesis.Json.Text
import LinkSynthesis.Shell.Quote

/-!
# Printed commands

The three ways in which a command is printed.
-/

namespace LinkSynthesis

/-- How the words of a command are printed. -/
inductive CommandFormat where
  /-- As a JSON array of strings. -/
  | json
  /-- As one shell command. -/
  | shell
  /-- One word a line, as it is. -/
  | lines
deriving DecidableEq, Repr

namespace CommandFormat

/-- The keyword of a format. -/
def keyword : CommandFormat → String
  | .json => "json"
  | .shell => "shell"
  | .lines => "lines"

/-- The format of a keyword. -/
def ofKeyword? (word : String) : Option CommandFormat :=
  [json, shell, lines].find? (·.keyword == word)

/-- The text of a command. -/
def render : CommandFormat → List String → String
  | .json, words => Json.encodeStrings words
  | .shell, words => Shell.join words
  | .lines, words => "\n".intercalate words

end CommandFormat
end LinkSynthesis

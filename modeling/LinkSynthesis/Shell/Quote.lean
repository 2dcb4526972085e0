/-!
# Shell words

Texts written as words of a POSIX shell command line. A text of safe characters stands for itself;
any other is put between apostrophes, and each apostrophe in it between double quotes of its own.
-/

namespace LinkSynthesis.Shell

/-- A character that means nothing special to the shell. -/
def isSafe (c : Char) : Bool := c.isAlphanum || "_@%+=:,./-".toList.contains c

/-- One character between apostrophes. -/
def quoteChar (c : Char) : List Char :=
  if c = '\x27' then ['\x27', '\x22', '\x27', '\x22', '\x27'] else [c]

/-- The word for a text, character by character. -/
def quoteChars (text : List Char) : List Char :=
  if text.isEmpty then ['\x27', '\x27']
  else if text.all isSafe then text
  else '\x27' :: (text.flatMap quoteChar ++ ['\x27'])

/-- The word for a text. -/
def quote (text : String) : String := .ofList (quoteChars text.toList)

/-- The words for some texts, with a blank between any two. -/
def join (texts : List String) : String := " ".intercalate (texts.map quote)

end LinkSynthesis.Shell

import LinkSynthesis.Text.Hex
import LinkSynthesis.Text.Printable

/-!
# Quoted text

A text as it is shown inside an error message: between apostrophes, or between double quotes when
it holds an apostrophe and no double quote. The mark in use, the backslash and every character
that is not printable are escaped.
-/

namespace LinkSynthesis.Text

/-- The mark that needs the fewest escapes; an apostrophe where either would do. -/
def quoteMark (text : List Char) : Char :=
  if '\x27' ∈ text ∧ '\x22' ∉ text then '\x22' else '\x27'

/-- One character between two marks. -/
def quotedChar (mark c : Char) : List Char :=
  if c = mark ∨ c = '\\' then ['\\', c]
  else if c = '\n' then ['\\', 'n']
  else if c = '\r' then ['\\', 'r']
  else if c = '\t' then ['\\', 't']
  else if isPrintable c then [c]
  else if c.toNat < 0x100 then '\\' :: 'x' :: hexDigits 2 c.toNat
  else if c.toNat < 0x10000 then '\\' :: 'u' :: hexDigits 4 c.toNat
  else '\\' :: 'U' :: hexDigits 8 c.toNat

/-- The text between two marks. -/
def quoted (text : String) : String :=
  let mark := quoteMark text.toList
  .ofList (mark :: (text.toList.flatMap (quotedChar mark) ++ [mark]))

end LinkSynthesis.Text

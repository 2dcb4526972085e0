import LinkSynthesis.Text.Hex

/-!
# JSON strings

Strings and lists of strings as JSON text in printable ASCII. A character above U+FFFF is written as
a pair of surrogates.
-/

namespace LinkSynthesis.Json

/-- The escape of one UTF-16 unit. -/
def unitEscape (unit : Nat) : List Char := '\\' :: 'u' :: Text.hexDigits 4 unit

/-- The text of one character inside a string. -/
def encodeChar (c : Char) : List Char :=
  match c with
  | '\x22' => ['\\', '\x22']
  | '\\' => ['\\', '\\']
  | '\n' => ['\\', 'n']
  | '\r' => ['\\', 'r']
  | '\t' => ['\\', 't']
  | '\x0c' => ['\\', 'f']
  | '\x08' => ['\\', 'b']
  | c =>
    if 0x20 ≤ c.toNat ∧ c.toNat < 0x7f then [c]
    else if c.toNat < 0x10000 then unitEscape c.toNat
    else
      let offset := c.toNat - 0x10000
      unitEscape (0xd800 + offset / 0x400) ++ unitEscape (0xdc00 + offset % 0x400)

/-- The text of a string, between double quotes. -/
def encodeString (text : String) : String :=
  .ofList ('\x22' :: (text.toList.flatMap encodeChar ++ ['\x22']))

/-- The text of a list of strings. -/
def encodeStrings (texts : List String) : String :=
  "[" ++ ", ".intercalate (texts.map encodeString) ++ "]"

end LinkSynthesis.Json

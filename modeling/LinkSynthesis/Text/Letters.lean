/-!
# Letter case

Case mappings for reading ASCII keywords in any case. The mappings are those of all characters
whose image is ASCII; every other character is kept, which can turn no text into an ASCII word.
-/

namespace LinkSynthesis.Text

/-- The upper-case form of a character, where that is ASCII. A ligature or a sharp s has two or
three letters. -/
def upperChar (c : Char) : List Char :=
  match c.toNat with
  | 0xdf => ['S', 'S']
  | 0x131 => ['I']
  | 0x17f => ['S']
  | 0xfb00 => ['F', 'F']
  | 0xfb01 => ['F', 'I']
  | 0xfb02 => ['F', 'L']
  | 0xfb03 => ['F', 'F', 'I']
  | 0xfb04 => ['F', 'F', 'L']
  | 0xfb05 => ['S', 'T']
  | 0xfb06 => ['S', 'T']
  | _ => [c.toUpper]

/-- The lower-case form of a character, where that is ASCII. The Kelvin sign is a `k`. -/
def lowerChar (c : Char) : Char :=
  if c.toNat = 0x212a then 'k' else c.toLower

/-- Upper-case letters throughout. -/
def upper (text : String) : String := .ofList (text.toList.flatMap upperChar)

/-- Lower-case letters throughout. -/
def lower (text : String) : String := .ofList (text.toList.map lowerChar)

end LinkSynthesis.Text

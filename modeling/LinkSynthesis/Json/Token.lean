import LinkSynthesis.Json.Value

/-!
# JSON tokens

The marks and scalars of a JSON text. The text is read one character at a time by a machine whose
state says inside what the next character stands; `scan` runs it over a whole text.
-/

namespace LinkSynthesis.Json

/-- A mark or a scalar of a JSON text. -/
inductive Token where
  | openArray
  | closeArray
  | openObject
  | closeObject
  | comma
  | colon
  | scalar (value : Value)

namespace Token

/-! ### Scalars without quotes -/

/-- The value of a run of ASCII digits. -/
def digitsValue (digits : List Char) : Nat :=
  digits.foldl (fun n c => 10 * n + (c.toNat - 48)) 0

/-- A number: an integer where it has neither point nor exponent. -/
def number? (word : List Char) : Option Value :=
  let (negative, word) := match word with
    | '-' :: rest => (true, rest)
    | word => (false, word)
  let whole := word.takeWhile Char.isDigit
  let rest := word.dropWhile Char.isDigit
  if whole.isEmpty ∨ (1 < whole.length ∧ whole.head? = some '0') then none
  else if rest.isEmpty then
    let n := digitsValue whole
    some (.int (if negative then -n else n))
  else
    let (fraction, rest) := match rest with
      | '.' :: rest => (some (rest.takeWhile Char.isDigit), rest.dropWhile Char.isDigit)
      | rest => (none, rest)
    let power? : Option Int := match rest with
      | [] => some 0
      | e :: rest =>
        let (down, digits) := match rest with
          | '-' :: digits => (true, digits)
          | '+' :: digits => (false, digits)
          | digits => (false, digits)
        if (e = 'e' ∨ e = 'E') ∧ !digits.isEmpty ∧ digits.all Char.isDigit then
          some (if down then -digitsValue digits else digitsValue digits)
        else none
    if fraction = some [] then none
    else
      let places := fraction.getD []
      power?.map fun power =>
        .float (.ofDecimal negative (digitsValue (whole ++ places)) (power - places.length))

/-- A keyword or a number. -/
def word? (word : List Char) : Option Token :=
  match String.ofList word with
  | "null" => some (.scalar .null)
  | "true" => some (.scalar (.bool true))
  | "false" => some (.scalar (.bool false))
  | _ => (number? word).map .scalar

/-! ### The scanner -/

/-- Inside what the next character stands. Characters of the scalar so far are held in reverse. -/
inductive Place where
  | between
  | word (done : List Char)
  | string (done : List Char)
  /-- After a backslash. -/
  | escape (done : List Char)
  /-- Inside the digits of a `\u` escape; `high` is the first half of a surrogate pair. -/
  | unit (done : List Char) (high : Option Nat) (count value : Nat)
  /-- After the first half of a surrogate pair. -/
  | half (done : List Char) (high : Nat)
  /-- After the backslash that follows it. -/
  | halfEscape (done : List Char) (high : Nat)

/-- The mark that a character is. -/
def mark? : Char → Option Token
  | '[' => some .openArray
  | ']' => some .closeArray
  | '\x7b' => some .openObject
  | '\x7d' => some .closeObject
  | ',' => some .comma
  | ':' => some .colon
  | _ => none

/-- The blanks of JSON. -/
def isBlank (c : Char) : Bool := c == ' ' || c == '\n' || c == '\r' || c == '\t'

/-- One character outside of all scalars. -/
def start (c : Char) : Place × List Token :=
  if c = '\x22' then (.string [], [])
  else if isBlank c then (.between, [])
  else match mark? c with
    | some token => (.between, [token])
    | none => (.word [c], [])

/-- The character that a letter after a backslash stands for. -/
def escaped? : Char → Option Char
  | '\x22' => some '\x22'
  | '\\' => some '\\'
  | '/' => some '/'
  | 'b' => some '\x08'
  | 'f' => some '\x0c'
  | 'n' => some '\n'
  | 'r' => some '\r'
  | 't' => some '\t'
  | _ => none

/-- The place after the four digits of a `\u` escape. -/
def unitDone (done : List Char) (high : Option Nat) (unit : Nat) : Option Place :=
  match high with
  | some high =>
    if 0xdc00 ≤ unit ∧ unit < 0xe000 then
      some (.string (Char.ofNat (0x10000 + (high - 0xd800) * 0x400 + (unit - 0xdc00)) :: done))
    else none
  | none =>
    if 0xd800 ≤ unit ∧ unit < 0xdc00 then some (.half done unit)
    else if 0xdc00 ≤ unit ∧ unit < 0xe000 then none
    else some (.string (Char.ofNat unit :: done))

/-- Reads one character: the next place, and the tokens that are complete. -/
def step (place : Place) (c : Char) : Option (Place × List Token) :=
  match place with
  | .between => some (start c)
  | .word done =>
    if c = '\x22' ∨ isBlank c ∨ (mark? c).isSome then
      (word? done.reverse).map fun token => ((start c).1, token :: (start c).2)
    else some (.word (c :: done), [])
  | .string done =>
    if c = '\x22' then some (.between, [.scalar (.str (.ofList done.reverse))])
    else if c = '\\' then some (.escape done, [])
    else if c.toNat < 0x20 then none
    else some (.string (c :: done), [])
  | .escape done =>
    if c = 'u' then some (.unit done none 0 0, [])
    else (escaped? c).map fun c => (.string (c :: done), [])
  | .unit done high count value =>
    (Text.hexValue? c).bind fun digit =>
      let value := 16 * value + digit
      if count < 3 then some (.unit done high (count + 1) value, [])
      else (unitDone done high value).map fun place => (place, [])
  | .half done high => if c = '\\' then some (.halfEscape done high, []) else none
  | .halfEscape done high => if c = 'u' then some (.unit done (some high) 0 0, []) else none

/-- The token that the end of the text completes. -/
def finish? : Place → Option (List Token)
  | .between => some []
  | .word done => (word? done.reverse).map fun token => [token]
  | _ => none

/-- The tokens of a text that starts at a place, after those found before it (held in reverse). -/
def scanFrom : (place : Place) → (found : List Token) → List Char → Option (List Token)
  | place, found, [] => (finish? place).map fun last => found.reverse ++ last
  | place, found, c :: rest =>
    match step place c with
    | none => none
    | some (place, tokens) => scanFrom place (tokens.reverse ++ found) rest

/-- The tokens of a text. -/
def scan (text : List Char) : Option (List Token) := scanFrom .between [] text

end Token
end LinkSynthesis.Json

import LinkSynthesis.Number.Shortest
import LinkSynthesis.Text.Quoted

/-!
# Document values

The values that a toolchain or link document holds. The members of an object keep their order.
`Value.display` is the text of a value inside a message; `Value.literal` differs from it on
strings only, which it quotes.
-/

namespace LinkSynthesis.Json

/-- A document value. -/
inductive Value where
  | null
  | bool (b : Bool)
  | int (n : Int)
  | float (x : Binary64)
  | str (text : String)
  | arr (items : List Value)
  | obj (members : List (String × Value))

/-- The members of an object, in document order. -/
abbrev Members := List (String × Value)

/-- The value of a member. -/
def Members.get? (members : Members) (key : String) : Option Value := members.lookup key

/-- The object has a member of that name. -/
def Members.has (members : Members) (key : String) : Bool := (members.get? key).isSome

/-- Gives a member its value: at its first place, or at the end. -/
def Members.put (members : Members) (key : String) (value : Value) : Members :=
  if members.any (·.1 == key) then
    members.map fun member => if member.1 == key then (key, value) else member
  else members ++ [(key, value)]

namespace Value

/-- The value says something: not null, false, a zero or empty. -/
def isTruthy : Value → Bool
  | null => false
  | bool b => b
  | int n => n != 0
  | float x => !x.isZero
  | str text => text != ""
  | arr items => !items.isEmpty
  | obj members => !members.isEmpty

/-- What the value lists: items, the characters of a string or the names of an object's members. -/
def elements? : Value → Option (List Value)
  | arr items => some items
  | str text => some (text.toList.map fun c => str c.toString)
  | obj members => some (members.map fun member => str member.1)
  | _ => none

/-- As `elements?`, where a value that says nothing lists nothing. -/
def optionalElements? (value : Value) : Option (List Value) :=
  if value.isTruthy then value.elements? else some []

/-- The decimal digits of an integer. -/
def intText (n : Int) : String := (if n < 0 then "-" else "") ++ .ofList (Nat.toDigits 10 n.natAbs)

mutual
/-- The text of a value, strings quoted. -/
def literal : Value → String
  | null => "None"
  | bool true => "True"
  | bool false => "False"
  | int n => intText n
  | float x => x.text
  | str text => Text.quoted text
  | arr items => "[" ++ ", ".intercalate (literals items) ++ "]"
  | obj members => "\x7b" ++ ", ".intercalate (memberLiterals members) ++ "\x7d"

/-- The texts of the items of an array. -/
def literals : List Value → List String
  | [] => []
  | value :: rest => value.literal :: literals rest

/-- The texts of the members of an object. -/
def memberLiterals : List (String × Value) → List String
  | [] => []
  | (key, value) :: rest => (Text.quoted key ++ ": " ++ value.literal) :: memberLiterals rest
end

/-- The text of a value inside a message: a string stands as it is. -/
def display : Value → String
  | str text => text
  | value => value.literal

end Value
end LinkSynthesis.Json

import LinkSynthesis.Json.Token

/-!
# Reading JSON

Values from tokens, by a machine with a stack of the arrays and objects that are still open. A
repeated member keeps its first place and takes its last value.
-/

namespace LinkSynthesis.Json

namespace Reader

/-- An array or object that is still open: what it holds so far, the items in reverse. -/
inductive Frame where
  | array (done : List Value)
  | object (done : Members) (key : String)

/-- The value of a frame that ends with the given value. -/
def Frame.close (value : Value) : Frame → Value
  | .array done => .arr (value :: done).reverse
  | .object done key => .obj (done.put key value)

/-- What the next token may be. -/
inductive Wanted where
  | value
  /-- A value, or the end of the array just opened. -/
  | firstItem
  /-- A member name, or the end of the object just opened. -/
  | firstKey (done : Members)
  | key (done : Members)
  | colon (done : Members) (key : String)
  /-- A comma, or the end of the innermost open array or object, after the given value. -/
  | next (value : Value)

/-- Where the machine is: what it wants, and what is open around it. -/
structure Place where
  wanted : Wanted
  stack : List Frame

/-- One token. -/
def step (place : Place) (token : Token) : Option Place :=
  match place.wanted, token, place.stack with
  | .value, .scalar value, stack => some ⟨.next value, stack⟩
  | .value, .openArray, stack => some ⟨.firstItem, stack⟩
  | .value, .openObject, stack => some ⟨.firstKey [], stack⟩
  | .firstItem, .closeArray, stack => some ⟨.next (.arr []), stack⟩
  | .firstItem, .scalar value, stack => some ⟨.next value, .array [] :: stack⟩
  | .firstItem, .openArray, stack => some ⟨.firstItem, .array [] :: stack⟩
  | .firstItem, .openObject, stack => some ⟨.firstKey [], .array [] :: stack⟩
  | .firstKey _, .closeObject, stack => some ⟨.next (.obj []), stack⟩
  | .firstKey done, .scalar (.str key), stack => some ⟨.colon done key, stack⟩
  | .key done, .scalar (.str key), stack => some ⟨.colon done key, stack⟩
  | .colon done key, .colon, stack => some ⟨.value, .object done key :: stack⟩
  | .next value, .comma, .array done :: stack => some ⟨.value, .array (value :: done) :: stack⟩
  | .next value, .comma, .object done key :: stack => some ⟨.key (done.put key value), stack⟩
  | .next value, .closeArray, .array done :: stack =>
    some ⟨.next (Frame.close value (.array done)), stack⟩
  | .next value, .closeObject, .object done key :: stack =>
    some ⟨.next (Frame.close value (.object done key)), stack⟩
  | _, _, _ => none

/-- Runs the machine; at the end one value must be complete and nothing open. -/
def run : Place → List Token → Option Value
  | ⟨.next value, []⟩, [] => some value
  | _, [] => none
  | place, token :: rest =>
    match step place token with
    | none => none
    | some place => run place rest

end Reader

/-- Reads one value. -/
def parse (text : String) : Option Value :=
  (Token.scan text.toList).bind (Reader.run ⟨.value, []⟩)

end LinkSynthesis.Json

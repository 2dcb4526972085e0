import LinkSynthesis.Json.Value

/-!
# Order of document values

Numbers stand in the order of their size and texts in code point order; on and off count as one
and zero. Values of two kinds are not compared, and lists and objects are compared with nothing.
-/

namespace LinkSynthesis.Json

/-- Where a value stands among those of its kind. -/
inductive Place where
  | null
  | number (rank : Int × Int)
  | text (text : String)
deriving DecidableEq

namespace Place

/-- The first place lies before the second one, if both are places of one kind. -/
def isBefore? : Place → Place → Option Bool
  | null, null => some false
  | number p, number q => some (p.1 < q.1 || p.1 == q.1 && p.2 < q.2)
  | text s, text t => some (s < t)
  | _, _ => none

end Place

namespace Value

/-- The place of a value; lists and objects have none. -/
def place? : Value → Option Place
  | null => some .null
  | bool b => some (.number (Binary64.rankOfInt (if b then 1 else 0)))
  | int n => some (.number (Binary64.rankOfInt n))
  | float x => some (.number x.rank)
  | str text => some (.text text)
  | arr _ => none
  | obj _ => none

/-- The lesser of two values of one kind; the first one, if they stand at the same place. -/
def lesser? (a b : Value) : Option Value := do
  return if ← (← b.place?).isBefore? (← a.place?) then b else a

/-- The least value of a list whose values are all of one kind; of several at the same place, the
first one. -/
def least? : List Value → Option Value
  | [] => none
  | value :: rest => do
    let _ ← value.place?
    rest.foldlM lesser? value

end Value
end LinkSynthesis.Json

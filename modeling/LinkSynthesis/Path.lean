/-!
# Paths

POSIX paths as an anchor and a list of segments. Empty and `.` segments are dropped when a path is
read, `..` is kept as it stands: nothing here looks at a file system. One slash in front, or three
and more, anchor a path at `/`; exactly two anchor it at `//`.
-/

namespace LinkSynthesis

/-- Where a path starts. -/
inductive Path.Anchor where
  | relative
  | root
  | doubleRoot
deriving DecidableEq, Repr

/-- A name between slashes: not empty, not `.`, and free of slashes. -/
structure Path.Segment where
  text : String
  isSegment : text ≠ "" ∧ text ≠ "." ∧ '/' ∉ text.toList
deriving DecidableEq

/-- A path: an anchor and the segments below it. -/
structure Path where
  anchor : Path.Anchor
  segments : List Path.Segment
deriving DecidableEq

namespace Path

/-- The slashes in front of the first segment. -/
def Anchor.text : Anchor → String
  | .relative => ""
  | .root => "/"
  | .doubleRoot => "//"

/-- The anchor that a number of leading slashes stands for. -/
def Anchor.ofSlashes : Nat → Anchor
  | 0 => .relative
  | 2 => .doubleRoot
  | _ => .root

/-- A segment, unless the text is dropped from paths or holds a slash. -/
def Segment.ofString? (text : String) : Option Segment :=
  if h : text ≠ "" ∧ text ≠ "." ∧ '/' ∉ text.toList then some ⟨text, h⟩ else none

/-- Reads a path. -/
def parse (text : String) : Path where
  anchor := .ofSlashes (text.toList.takeWhile (· == '/')).length
  segments := (text.toList.splitOn '/').filterMap fun piece => Segment.ofString? (.ofList piece)

/-- Writes a path; the path without anchor and segments is `.`. -/
def toString (p : Path) : String :=
  if p.anchor = .relative ∧ p.segments = [] then "."
  else p.anchor.text ++ "/".intercalate (p.segments.map Segment.text)

/-- The anchor, if there is one, and the texts of the segments. -/
def parts (p : Path) : List String :=
  match p.anchor with
  | .relative => p.segments.map Segment.text
  | anchor => anchor.text :: p.segments.map Segment.text

/-- The path starts at a root. -/
def isAbsolute (p : Path) : Bool := p.anchor ≠ .relative

/-- The last segment, or nothing. -/
def name (p : Path) : String := (p.segments.getLast?.map Segment.text).getD ""

/-- The path without its last segment; a path without segments is its own parent. -/
def parent (p : Path) : Path := { p with segments := p.segments.dropLast }

/-- The path `q` seen from `p`. -/
def join (p q : Path) : Path :=
  if q.isAbsolute then q else { p with segments := p.segments ++ q.segments }

/-- Part-wise: `a/bc` is not under `a/b`. A path without parts has every path under it. -/
def isUnder (p ancestor : Path) : Bool := ancestor.parts.isPrefixOf p.parts

/-- The path below `base`, which must have the same anchor. -/
def relativeTo? (p base : Path) : Option Path :=
  if p.anchor = base.anchor ∧ base.segments <+: p.segments then
    some ⟨.relative, p.segments.drop base.segments.length⟩
  else none

/-- The path a number of steps up; there is nothing above the anchor. -/
def ascend (p : Path) (steps : Nat) : Path :=
  { p with segments := p.segments.take (p.segments.length - steps) }

/-- The steps up from `p` to the nearest path above `q` that is `p` or above it. -/
def stepsToCommon? (p q : Path) : Option Nat :=
  (List.range (p.segments.length + 1)).find? fun steps => q.isUnder (p.ascend steps)

/-! ### Small facts -/

@[simp] theorem Segment.ofString?_text (s : Segment) : ofString? s.text = some s := by
  simp [ofString?, s.isSegment]

theorem Segment.text_injective {s t : Segment} (h : s.text = t.text) : s = t := by
  cases s; cases t; cases h; rfl

@[simp] theorem parent_segments (p : Path) : p.parent.segments = p.segments.dropLast := rfl

theorem isUnder_iff {p ancestor : Path} : p.isUnder ancestor = true ↔ ancestor.parts <+: p.parts :=
  List.isPrefixOf_iff_prefix

@[simp] theorem ascend_zero (p : Path) : p.ascend 0 = p := by simp [ascend]

end Path
end LinkSynthesis

import LinkSynthesis.Path

/-!
# Resolved paths

What a path denotes when no segment is a symbolic link: each `..` takes back the segment before it.
At the front of a relative path it stays, as it leads out of the directory that the path is seen
from; at a root it is dropped, as there is nothing above.
-/

namespace LinkSynthesis.Path

/-- The segment that leads to the parent directory. -/
def Segment.up : Segment := ⟨"..", by decide⟩

/-- Goes to one segment from a directory, whose segments are held in reverse. -/
def enter (anchor : Anchor) (dir : List Segment) (segment : Segment) : List Segment :=
  if segment ≠ .up then segment :: dir
  else match dir with
    | [] => if anchor = .relative then [.up] else []
    | last :: rest => if last = .up then .up :: last :: rest else rest

/-- The path without the `..` that can be taken back. -/
def resolve (p : Path) : Path :=
  { p with segments := (p.segments.foldl (enter p.anchor) []).reverse }

/-- The path that a text denotes behind the directory `dir` and a slash. Slashes in front of the
text add nothing. -/
def resolveBelow (dir : Path) (text : String) : Path :=
  resolve { dir with segments := dir.segments ++ (parse text).segments }

/-! ### Small facts -/

theorem foldl_enter_of_up_notMem {anchor : Anchor} {segments : List Segment}
    (h : .up ∉ segments) (dir : List Segment) :
    segments.foldl (enter anchor) dir = segments.reverse ++ dir := by
  induction segments generalizing dir with
  | nil => rfl
  | cons segment segments ih =>
    obtain ⟨hs, h⟩ := not_or.1 fun hm => h (List.mem_cons.2 hm)
    have entered : enter anchor dir segment = segment :: dir := by simp [enter, Ne.symm hs]
    rw [List.foldl_cons, ih h, entered]
    simp

/-- A path without `..` is resolved. -/
theorem resolve_eq_self {p : Path} (h : .up ∉ p.segments) : p.resolve = p := by
  simp [resolve, foldl_enter_of_up_notMem h]

/-- As many `..` as there are segments lead back to the start. -/
theorem foldl_enter_replicate_up {anchor : Anchor} {segments dir : List Segment}
    (h : .up ∉ segments) :
    (List.replicate segments.length .up).foldl (enter anchor) (segments ++ dir) = dir := by
  induction segments with
  | nil => rfl
  | cons segment segments ih =>
    obtain ⟨hs, h⟩ := not_or.1 fun hm => h (List.mem_cons.2 hm)
    have back : enter anchor (segment :: segments ++ dir) .up = segments ++ dir := by
      simp [enter, Ne.symm hs]
    rw [List.length_cons, List.replicate_succ, List.foldl_cons, back, ih h]

end LinkSynthesis.Path

import LinkSynthesis.Proofs.RpathPlan

/-!
# The way through the nearest common ancestor

The search path option of a library directory goes up from the solib directory, one parent at a
time, until the library directory lies below. Between paths of one anchor this walk comes to an end:
at the directory whose parts are the longest common prefix of the parts of both. The option says so
in its text, and who follows the text from the solib directory gets to the library directory
(`libraryOption_eq`).
-/

namespace LinkSynthesis

/-! ### Longest common prefixes -/

variable {α : Type}

/-- What two lists begin with. -/
def commonPrefix [DecidableEq α] : List α → List α → List α
  | x :: l, y :: l' => if x = y then x :: commonPrefix l l' else []
  | _, _ => []

/-- Both lists begin with a list, and with no longer one. -/
structure IsLongestCommonPrefix (common l l' : List α) : Prop where
  left : common <+: l
  right : common <+: l'
  longest : ∀ other, other <+: l → other <+: l' → other.length ≤ common.length

theorem isLongestCommonPrefix_commonPrefix [DecidableEq α] (l l' : List α) :
    IsLongestCommonPrefix (commonPrefix l l') l l' := by
  induction l generalizing l' with
  | nil => exact ⟨List.nil_prefix, List.nil_prefix, fun other left _ => left.length_le⟩
  | cons x l ih =>
    cases l' with
    | nil => exact ⟨List.nil_prefix, List.nil_prefix, fun other _ right => right.length_le⟩
    | cons y l' =>
      by_cases same : x = y
      · subst same
        obtain ⟨left, right, longest⟩ := ih l'
        rw [commonPrefix, if_pos rfl]
        refine ⟨(List.prefix_cons_inj x).2 left, (List.prefix_cons_inj x).2 right, ?_⟩
        rintro (_ | ⟨z, other⟩) hl hr
        · exact Nat.zero_le _
        · exact Nat.succ_le_succ
            (longest other (List.cons_prefix_cons.1 hl).2 (List.cons_prefix_cons.1 hr).2)
      · rw [commonPrefix, if_neg same]
        refine ⟨List.nil_prefix, List.nil_prefix, ?_⟩
        rintro (_ | ⟨z, other⟩) hl hr
        · exact Nat.le_refl 0
        · exact absurd ((List.cons_prefix_cons.1 hl).1.symm.trans (List.cons_prefix_cons.1 hr).1)
            same

/-- A beginning of one list is one of the other too, as long as it is not too long. -/
theorem IsLongestCommonPrefix.take_prefix_iff {common l l' : List α}
    (h : IsLongestCommonPrefix common l l') {n : Nat} (hn : n ≤ l.length) :
    l.take n <+: l' ↔ n ≤ common.length := by
  constructor
  · intro both
    have bound := h.longest _ (List.take_prefix n l) both
    rwa [List.length_take, Nat.min_eq_left hn] at bound
  · intro short
    have own : l.take n = common.take n := by
      rw [List.prefix_iff_eq_take.1 h.left, List.take_take, Nat.min_eq_left short]
    exact own ▸ (List.take_prefix n common).trans h.right

namespace Path

variable {p dir last : Path} {n : Nat}

/-! ### The walk up -/

/-- The walk up from a path ends at a path after a number of steps: from a path that the directory
is not under it goes on with the parent. -/
inductive ClimbsTo (dir : Path) : Path → Nat → Path → Prop
  | stop {p : Path} (under : dir.isUnder p = true) : ClimbsTo dir p 0 p
  | step {p last : Path} {n : Nat} (apart : dir.isUnder p = false)
      (rest : ClimbsTo dir p.parent n last) : ClimbsTo dir p (n + 1) last

theorem ascend_parent (p : Path) (n : Nat) : p.parent.ascend n = p.ascend (n + 1) := by
  simp only [ascend, parent, List.dropLast_eq_take, List.take_take, List.length_take]
  congr 2
  omega

theorem stepsToCommon?_eq_some_iff : p.stepsToCommon? dir = some n ↔
    dir.isUnder (p.ascend n) = true ∧ n ≤ p.segments.length ∧
      ∀ m < n, dir.isUnder (p.ascend m) = false := by
  simp only [stepsToCommon?, List.find?_range_eq_some, List.mem_range, Nat.lt_succ_iff,
    Bool.not_eq_true']

/-- The steps of a walk lead past the paths that the directory is not under. -/
theorem ClimbsTo.ascend (h : ClimbsTo dir p n last) :
    last = p.ascend n ∧ dir.isUnder last = true ∧ ∀ m < n, dir.isUnder (p.ascend m) = false := by
  induction h with
  | stop under => exact ⟨(ascend_zero _).symm, under, fun m hm => absurd hm (Nat.not_lt_zero m)⟩
  | step apart _ ih =>
    obtain ⟨rfl, under, before⟩ := ih
    refine ⟨ascend_parent _ _, under, fun m hm => ?_⟩
    cases m with
    | zero => rwa [ascend_zero]
    | succ m => exact ascend_parent _ m ▸ before m (Nat.lt_of_succ_lt_succ hm)

theorem climbsTo_ascend (under : dir.isUnder (p.ascend n) = true)
    (before : ∀ m < n, dir.isUnder (p.ascend m) = false) : ClimbsTo dir p n (p.ascend n) := by
  induction n generalizing p with
  | zero =>
    rw [ascend_zero] at under ⊢
    exact .stop under
  | succ n ih =>
    rw [← ascend_parent] at under ⊢
    refine .step (ascend_zero p ▸ before 0 n.succ_pos) (ih under fun m hm => ?_)
    exact ascend_parent p m ▸ before (m + 1) (Nat.succ_lt_succ hm)

/-- The steps to a common ancestor are those of the walk, and there are none if it has no end. -/
theorem climbsTo_iff :
    ClimbsTo dir p n last ↔ p.stepsToCommon? dir = some n ∧ last = p.ascend n := by
  rw [stepsToCommon?_eq_some_iff]
  constructor
  · intro h
    obtain ⟨rfl, under, before⟩ := h.ascend
    refine ⟨⟨under, ?_, before⟩, rfl⟩
    -- Behind the anchor the walk would stand still.
    by_contra beyond
    have stuck : p.ascend p.segments.length = p.ascend n := by
      simp only [Path.ascend, Nat.sub_self]
      congr 2
      omega
    have apart := before p.segments.length (by omega)
    rw [stuck, under] at apart
    cases apart
  · rintro ⟨⟨under, -, before⟩, rfl⟩
    exact climbsTo_ascend under before

/-! ### The way there -/

/-- The parts that two paths begin with. -/
def commonParts (p dir : Path) : List String := commonPrefix p.parts dir.parts

/-- The text of the way from a path to a directory: up by a step for each part that is not common,
then down along the parts of the directory that are not. -/
def wayTo (p dir : Path) : String :=
  stepsUp (p.parts.length - (p.commonParts dir).length) ++
    "/".intercalate (dir.parts.drop (p.commonParts dir).length)

/-- A path is as many parts above another as there are steps up to it. -/
theorem parts_ascend (p : Path) (hn : n ≤ p.segments.length) :
    (p.ascend n).parts = p.parts.take (p.parts.length - n) := by
  obtain ⟨anchor, segments⟩ := p
  have front (text : String) : text :: (segments.take (segments.length - n)).map Segment.text =
      (text :: segments.map Segment.text).take (segments.length + 1 - n) := by
    rw [Nat.sub_add_comm hn, List.take_succ_cons, List.map_take]
  cases anchor with
  | relative => simp [parts, Path.ascend, List.map_take]
  | root | doubleRoot => simpa [parts, Path.ascend] using front _

/-- Between paths of one anchor the walk ends where their parts begin to differ. -/
theorem stepsToCommon?_of_anchor_eq (h : dir.anchor = p.anchor) :
    p.stepsToCommon? dir = some (p.parts.length - (p.commonParts dir).length) ∧
      (p.ascend (p.parts.length - (p.commonParts dir).length)).parts = p.commonParts dir := by
  have longest := isLongestCommonPrefix_commonPrefix p.parts dir.parts
  rw [← commonParts] at longest
  -- The anchor is common to both, so there are segments enough to go up.
  have steps : p.parts.length - (p.commonParts dir).length ≤ p.segments.length := by
    have top : p.parts.take (p.parts.length - p.segments.length) <+: dir.parts := by
      have absolute : dir.isAbsolute = (p.ascend p.segments.length).isAbsolute :=
        isAbsolute_eq_of_anchor_eq h
      rw [← parts_ascend p (Nat.le_refl _), ← isUnder_iff, isUnder_iff_segments absolute]
      exact ⟨h, by simp [Path.ascend]⟩
    have bound := (longest.take_prefix_iff (Nat.sub_le _ _)).1 top
    omega
  have shorter := longest.left.length_le
  refine ⟨stepsToCommon?_eq_some_iff.2 ⟨?_, steps, fun m hm => ?_⟩, ?_⟩
  · rw [isUnder_iff, parts_ascend p steps, longest.take_prefix_iff (Nat.sub_le _ _)]
    omega
  · rw [← Bool.not_eq_true, isUnder_iff, parts_ascend p (by omega),
      longest.take_prefix_iff (Nat.sub_le _ _)]
    omega
  · rw [parts_ascend p steps, Nat.sub_sub_self shorter]
    exact (List.prefix_iff_eq_take.1 longest.left).symm

/-- The way leads from the path to the directory. -/
theorem resolveBelow_wayTo (h : dir.anchor = p.anchor) (hp : .up ∉ p.segments)
    (hd : .up ∉ dir.segments) : p.resolveBelow (p.wayTo dir) = dir := by
  obtain ⟨found, parts⟩ := stepsToCommon?_of_anchor_eq h
  obtain ⟨under, bound, -⟩ := stepsToCommon?_eq_some_iff.1 found
  unfold wayTo
  generalize p.parts.length - (p.commonParts dir).length = n at parts under bound
  rw [← parts]
  have absolute : dir.isAbsolute = (p.ascend n).isAbsolute := isAbsolute_eq_of_anchor_eq h
  obtain ⟨-, above⟩ := (isUnder_iff_segments absolute).1 under
  obtain ⟨sub, own⟩ : (p.ascend n).segments <+: p.segments := List.take_prefix _ _
  have steps : List.replicate n Segment.up = List.replicate sub.length .up := by
    have lengths := congrArg List.length own
    rw [List.length_append, Path.ascend, List.length_take] at lengths
    congr 1
    omega
  have plain : .up ∉ (p.ascend n).segments ++ sub := own ▸ hp
  rw [List.mem_append, not_or] at plain
  have hplace : .up ∉ dir.segments.drop (p.ascend n).segments.length :=
    fun hu => hd (List.mem_of_mem_drop hu)
  rw [parts_drop absolute, resolveBelow, parse_segments_stepsUp, parse_segments_intercalate, ← own,
    steps, resolve_up_down plain.1 plain.2 hplace]
  have down : (p.ascend n).descend _ = dir := descend_drop h above
  exact down

end Path

namespace RpathPlan

/-- **An option goes through the nearest common ancestor.** Let a library directory have the anchor
of the solib directory. The walk up ends at the path of the common parts of both, after a step for
each part of the solib directory that is not common. There is no option just for the solib directory
and the runtime directory; for any other directory it is the root with the way behind it: those
steps up, and down the parts of the library directory that are not common. Where no `..` stands in
the paths, this way leads from the solib directory to the library directory. No option leads from a
relative path to an absolute one or back. -/
theorem libraryOption_eq (plan : RpathPlan) (dir : Path) :
    (dir.anchor = plan.solibDir.anchor →
      IsLongestCommonPrefix (plan.solibDir.commonParts dir) plan.solibDir.parts dir.parts ∧
      (∃ last, dir.ClimbsTo plan.solibDir
          (plan.solibDir.parts.length - (plan.solibDir.commonParts dir).length) last ∧
        last.parts = plan.solibDir.commonParts dir) ∧
      plan.libraryOption dir =
        .ok (if dir = plan.solibDir ∨ some dir = plan.runtimeSolibDir then none
          else some (plan.root ++ plan.solibDir.wayTo dir)) ∧
      (.up ∉ plan.solibDir.segments → .up ∉ dir.segments →
        plan.solibDir.resolveBelow (plan.solibDir.wayTo dir) = dir)) ∧
    (dir.isAbsolute ≠ plan.solibDir.isAbsolute → some dir ≠ plan.runtimeSolibDir →
      plan.libraryOption dir = .error (.noCommonAncestor dir plan.solibDir)) := by
  constructor
  · intro h
    obtain ⟨steps, parts⟩ := Path.stepsToCommon?_of_anchor_eq h
    refine ⟨isLongestCommonPrefix_commonPrefix _ _, ⟨_, Path.climbsTo_iff.2 ⟨steps, rfl⟩, parts⟩,
      ?_, Path.resolveBelow_wayTo h⟩
    have absolute := Path.isAbsolute_eq_of_anchor_eq h
    unfold libraryOption
    split
    · rfl
    · rw [if_neg (not_not.2 absolute), steps]
      dsimp only
      rw [parts, Path.wayTo, String.append_assoc]
  · intro absolute hr
    have hs : dir ≠ plan.solibDir := fun same => absolute (same ▸ rfl)
    rw [libraryOption, if_neg (by simp [hs, hr]), if_pos absolute]

/-- The plan of an output two directories below the output tree. -/
def deepPlan : RpathPlan where
  solibDir := Path.parse "out/bin/_solib/x86"
  runtimeSolibDir := some (Path.parse "out/bin/_rt")
  root := "-Wl,-rpath,$ORIGIN/../../_solib/x86/"

/-- A directory beside the solib directory whose name begins with that of a directory above it. -/
def besideDir : Path := Path.parse "out/bin/_solib_extra/net"

theorem libraryOption_besideDir :
    deepPlan.libraryOption besideDir =
        .ok (some "-Wl,-rpath,$ORIGIN/../../_solib/x86/../../_solib_extra/net") ∧
      deepPlan.solibDir.resolveBelow "../../_solib_extra/net" = besideDir ∧
      deepPlan.libraryOption (Path.parse "/usr/lib") =
        .error (.noCommonAncestor (Path.parse "/usr/lib") (Path.parse "out/bin/_solib/x86")) := by
  have way : deepPlan.solibDir.wayTo besideDir = "../../_solib_extra/net" := by decide +kernel
  obtain ⟨between, -⟩ := libraryOption_eq deepPlan besideDir
  obtain ⟨-, -, option, resolved⟩ := between (by decide)
  obtain ⟨-, apart⟩ := libraryOption_eq deepPlan (Path.parse "/usr/lib")
  rw [way] at option resolved
  refine ⟨option, resolved (by decide) (by decide), apart (by decide) (by decide)⟩

end RpathPlan
end LinkSynthesis

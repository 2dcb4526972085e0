import LinkSynthesis.Proofs.RpathPlan.NearestAncestor

/-!
# Walks with a limited number of steps

The walk from the solib directory up to a path above a library directory, with a budget of steps.
Within its budget it gives the search path option; whether there is an end to it at all is seen by
giving it any budget. Between a path at `/` and one at `//` there is none
(`forall_libraryOptionWithin?_eq_none_iff`): the parent of a root is that root.
-/

namespace LinkSynthesis

namespace Path

variable {dir p last : Path} {budget n : Nat}

/-- The walk up from a path to the first one that the directory is under: the steps taken and the
path found. There is no result if more steps are needed than the budget has. -/
def climb? (dir : Path) : Nat → Path → Option (Nat × Path)
  | 0, p => if dir.isUnder p then some (0, p) else none
  | budget + 1, p =>
    if dir.isUnder p then some (0, p)
    else (climb? dir budget p.parent).map fun (steps, last) => (steps + 1, last)

/-- No step is needed from a path that the directory is under. -/
theorem climb?_of_isUnder (under : dir.isUnder p = true) (budget : Nat) :
    dir.climb? budget p = some (0, p) := by
  cases budget with
  | zero => exact if_pos under
  | succ budget => exact if_pos under

/-- A walk within the budget is a walk that ends in time. -/
theorem climb?_eq_some_iff :
    dir.climb? budget p = some (n, last) ↔ n ≤ budget ∧ dir.ClimbsTo p n last := by
  constructor
  · intro h
    induction budget generalizing p n with
    | zero =>
      rw [climb?] at h
      split at h
      · next under =>
        cases h
        exact ⟨Nat.le_refl 0, .stop under⟩
      · cases h
    | succ budget ih =>
      rw [climb?] at h
      split at h
      · next under =>
        cases h
        exact ⟨Nat.zero_le _, .stop under⟩
      · next apart =>
        obtain ⟨⟨steps, end'⟩, rest, same⟩ := Option.map_eq_some_iff.1 h
        cases same
        obtain ⟨inTime, climbs⟩ := ih rest
        exact ⟨Nat.succ_le_succ inTime, .step (by simpa using apart) climbs⟩
  · rintro ⟨inTime, climbs⟩
    induction climbs generalizing budget with
    | stop under => exact climb?_of_isUnder under budget
    | step apart _ ih =>
      cases budget with
      | zero => cases inTime
      | succ budget =>
        rw [climb?, if_neg (by simp [apart]), ih (Nat.le_of_succ_le_succ inTime)]
        rfl

end Path

namespace RpathPlan

variable {plan : RpathPlan} {dir : Path} {budget : Nat} {answer : Except AssemblyError (Option String)}

/-- The search path option of a library directory, if a budget of steps suffices for the walk. -/
def libraryOptionWithin? (plan : RpathPlan) (budget : Nat) (dir : Path) :
    Option (Except AssemblyError (Option String)) :=
  if dir = plan.solibDir ∨ some dir = plan.runtimeSolibDir then some (.ok none)
  else if dir.isAbsolute ≠ plan.solibDir.isAbsolute then
    some (.error (.noCommonAncestor dir plan.solibDir))
  else (dir.climb? budget plan.solibDir).map fun (steps, common) =>
    .ok (some (plan.root ++ stepsUp steps ++
      "/".intercalate (dir.parts.drop common.parts.length)))

/-- Where the budget suffices it makes no difference. -/
theorem libraryOption_of_within (h : plan.libraryOptionWithin? budget dir = some answer) :
    plan.libraryOption dir = answer := by
  unfold libraryOptionWithin? at h
  unfold libraryOption
  split at h
  · next own => rw [if_pos own, Option.some.inj h]
  · next own =>
    rw [if_neg own]
    split at h
    · next absolute => rw [if_pos absolute, Option.some.inj h]
    · next absolute =>
      obtain ⟨⟨steps, common⟩, climbed, rfl⟩ := Option.map_eq_some_iff.1 h
      obtain ⟨found, rfl⟩ := Path.climbsTo_iff.1 (Path.climb?_eq_some_iff.1 climbed).2
      rw [if_neg absolute, found]

/-- A directory where a library may lie asks for no step of the walk. -/
theorem libraryOptionWithin?_of_accepts {isRuntime : Bool}
    (accepted : plan.accepts isRuntime dir = true) (budget : Nat) :
    plan.libraryOptionWithin? budget dir = some (plan.libraryOption dir) := by
  obtain ⟨answer, h⟩ : ∃ answer, plan.libraryOptionWithin? budget dir = some answer := by
    unfold libraryOptionWithin?
    split
    · exact ⟨_, rfl⟩
    · next own =>
      have under : dir.isUnder plan.solibDir = true := by
        simpa [accepts, (not_or.1 own).2] using accepted
      rw [Path.climb?_of_isUnder under]
      split
      · exact ⟨_, rfl⟩
      · exact ⟨_, rfl⟩
  rw [h, libraryOption_of_within h]

/-- The directory and the solib directory lie at different roots, so no path lies above both; only
the runtime directory needs none. -/
structure IsEndless (plan : RpathPlan) (dir : Path) : Prop where
  absolute : dir.isAbsolute = true
  solib_absolute : plan.solibDir.isAbsolute = true
  roots : dir.anchor ≠ plan.solibDir.anchor
  apart : some dir ≠ plan.runtimeSolibDir

/-- No budget suffices between different roots, and everywhere else some budget does. -/
theorem forall_libraryOptionWithin?_eq_none_iff :
    (∀ budget, plan.libraryOptionWithin? budget dir = none) ↔ plan.IsEndless dir := by
  constructor
  · intro endless
    have own : ¬(dir = plan.solibDir ∨ some dir = plan.runtimeSolibDir) := by
      intro own
      have none := endless 0
      rw [libraryOptionWithin?, if_pos own] at none
      cases none
    have absolute : dir.isAbsolute = plan.solibDir.isAbsolute := by
      by_contra other
      have none := endless 0
      rw [libraryOptionWithin?, if_neg own, if_pos other] at none
      cases none
    have roots : dir.anchor ≠ plan.solibDir.anchor := by
      intro same
      obtain ⟨steps, -⟩ := Path.stepsToCommon?_of_anchor_eq same
      have none := endless (plan.solibDir.parts.length - (plan.solibDir.commonParts dir).length)
      rw [libraryOptionWithin?, if_neg own, if_neg (not_not.2 absolute),
        Path.climb?_eq_some_iff.2 ⟨Nat.le_refl _, Path.climbsTo_iff.2 ⟨steps, rfl⟩⟩] at none
      cases none
    -- Two relative paths have one anchor.
    have rooted : dir.isAbsolute = true := by
      by_contra relative
      have start : dir.anchor = .relative := by simpa [Path.isAbsolute] using relative
      rw [absolute] at relative
      have solib : plan.solibDir.anchor = .relative := by simpa [Path.isAbsolute] using relative
      exact roots (start.trans solib.symm)
    exact ⟨rooted, absolute ▸ rooted, roots, fun h => own (.inr h)⟩
  · intro h budget
    have absolute : dir.isAbsolute = plan.solibDir.isAbsolute :=
      h.absolute.trans h.solib_absolute.symm
    have own : ¬(dir = plan.solibDir ∨ some dir = plan.runtimeSolibDir) := by
      rintro (same | runtime)
      · exact h.roots (same ▸ rfl)
      · exact h.apart runtime
    rw [libraryOptionWithin?, if_neg own, if_neg (not_not.2 absolute), Option.map_eq_none_iff,
      Option.eq_none_iff_forall_ne_some]
    rintro ⟨steps, last⟩ climbed
    obtain ⟨rfl, under, -⟩ := (Path.climb?_eq_some_iff.1 climbed).2.ascend
    -- What the walk meets lies at the root of the solib directory, and has that as a part.
    have parts : (plan.solibDir.ascend steps).parts ≠ [] := by
      intro empty
      have relative : plan.solibDir.anchor = .relative := (Path.parts_eq_nil_iff.1 empty).1
      have rooted := h.solib_absolute
      simp [Path.isAbsolute, relative] at rooted
    have same : dir.anchor = (plan.solibDir.ascend steps).anchor :=
      Path.anchor_eq_of_isUnder under parts
    exact h.roots same

end RpathPlan
end LinkSynthesis

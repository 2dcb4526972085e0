import LinkSynthesis.Action.Description
import LinkSynthesis.Proofs.RpathPlan

/-!
# Artifacts seen from their roots

The check of an artifact asks whether its path lies under its root, part by part. The path below the
root is a relative one that leads from the root to the artifact. The two differ for roots such as
`.` that have no parts: every path lies under them, but nothing leads from them to an absolute path.
An output of this kind is accepted, and its search paths cannot be planned
(`rootRelativePath_of_ofStrings`).
-/

namespace LinkSynthesis

namespace Artifact

/-- An absolute path under a root that is written but has no parts. -/
def IsUnreachable (execPath root : String) : Prop :=
  root ≠ "" ∧ (Path.parse root).parts = [] ∧ (Path.parse execPath).isAbsolute = true

instance (execPath root : String) : Decidable (IsUnreachable execPath root) :=
  inferInstanceAs (Decidable (_ ∧ _ ∧ _))

variable {file : Artifact} {execPath root : String}

/-- From the root the path below it leads back to the artifact. -/
theorem join_rootRelativePath {path : Path} (h : file.rootRelativePath? = some path) :
    (Path.parse file.root).join path = file.path := by
  unfold rootRelativePath? at h
  split at h
  · next none =>
    cases h
    rw [none]
    exact Path.empty_join file.path
  · exact (Path.relativeTo?_eq_some_iff.1 h).1

theorem rootRelativePath?_eq_none_iff_of_ofStrings (h : ofStrings execPath root = .ok file) :
    file.rootRelativePath? = none ↔ IsUnreachable execPath root := by
  obtain ⟨rfl, rfl⟩ := ofStrings_eq_ok h
  exact file.rootRelativePath?_eq_none_iff

end Artifact

/-! ### Paths without a root of their own -/

namespace Description

variable {execPath : String}

/-- A path is accepted below the root that it gets. -/
theorem exists_ofStrings_defaultRoot (binDir : String) (he : execPath ≠ "") :
    ∃ file, Artifact.ofStrings execPath (defaultRoot binDir execPath) = .ok file := by
  have under : defaultRoot binDir execPath = "" ∨
      (Path.parse execPath).isUnder (Path.parse (defaultRoot binDir execPath)) = true := by
    unfold defaultRoot
    split
    · next h => exact .inr h
    · exact .inl rfl
  exact ⟨⟨execPath, defaultRoot binDir execPath, he, under⟩, by
    rw [Artifact.ofStrings, dif_neg he, dif_pos under]⟩

theorem readArtifact_str {binDir : String} {file : Artifact}
    (h : Artifact.ofStrings execPath (defaultRoot binDir execPath) = .ok file) :
    readArtifact binDir (.str execPath) = .ok (some file) := by
  rw [readArtifact, placeArtifact, h]
  rfl

/-- A written path without parts has every path under it, so it is the root of each. -/
theorem isUnreachable_defaultRoot_iff {binDir : String} :
    Artifact.IsUnreachable execPath (defaultRoot binDir execPath) ↔
      Artifact.IsUnreachable execPath binDir := by
  unfold defaultRoot
  split
  · rfl
  · next apart =>
    constructor
    · rintro ⟨written, -⟩
      exact absurd rfl written
    · rintro ⟨-, empty, -⟩
      refine absurd (Path.isUnder_iff.2 ?_) apart
      rw [empty]
      exact List.nil_prefix

end Description

/-! ### Accepted artifacts -/

namespace Artifact

/-- **The paths below the roots.** An accepted artifact has a path below its root unless it is an
absolute path under a root without parts; joined to the root the path is that of the artifact, and
without a root it is the artifact's own. For an output the search paths are planned in just these
cases and for shared native libraries. All this holds of paths that a description gives without a
root, whatever the output tree. -/
theorem rootRelativePath_of_ofStrings (execPath root binDir : String) :
    (∀ file, ofStrings execPath root = .ok file →
      ((∃ path, file.rootRelativePath? = some path) ↔ ¬IsUnreachable execPath root) ∧
      (∀ path, file.rootRelativePath? = some path → (Path.parse root).join path = file.path) ∧
      (root = "" → file.rootRelativePath? = some file.path) ∧
      ∀ a : Action, a.output = some file → ((∃ plan, a.rpathPlan = .ok plan) ↔
        a.isSharedNativeLibrary = true ∨ ¬IsUnreachable execPath root)) ∧
    (execPath ≠ "" → ∃ file,
      Description.readArtifact binDir (.str execPath) = .ok (some file) ∧
      ofStrings execPath (Description.defaultRoot binDir execPath) = .ok file ∧
      (IsUnreachable execPath (Description.defaultRoot binDir execPath) ↔
        IsUnreachable execPath binDir)) := by
  refine ⟨fun file accepted => ⟨?_, ?_, ?_, ?_⟩, fun he => ?_⟩
  · rw [← rootRelativePath?_eq_none_iff_of_ofStrings accepted, ← Option.isSome_iff_exists,
      Option.isSome_iff_ne_none]
  · obtain ⟨rfl, rfl⟩ := ofStrings_eq_ok accepted
    exact fun path => join_rootRelativePath
  · obtain ⟨rfl, rfl⟩ := ofStrings_eq_ok accepted
    exact fun none => if_pos none
  · intro a ho
    rw [Action.exists_rpathPlan_iff ho, ne_eq,
      rootRelativePath?_eq_none_iff_of_ofStrings accepted]
  · obtain ⟨file, accepted⟩ := Description.exists_ofStrings_defaultRoot binDir he
    exact ⟨file, Description.readArtifact_str accepted, accepted,
      Description.isUnreachable_defaultRoot_iff⟩

/-- The root of a double slash is a part, so an output below it has its search paths. -/
theorem rootRelativePath_doubleRoot : ∃ file path,
    Description.readArtifact "//out/./bin" (.str "//out/bin/pkg/app") = .ok (some file) ∧
      file.rootRelativePath? = some path ∧
      (Path.parse "//out/./bin").join path = Path.parse "//out/bin/pkg/app" ∧
      ∀ a : Action, a.output = some file → ∃ plan, a.rpathPlan = .ok plan := by
  have root : Description.defaultRoot "//out/./bin" "//out/bin/pkg/app" = "//out/./bin" := by
    decide
  have reachable : ¬IsUnreachable "//out/bin/pkg/app" "//out/./bin" := by decide
  obtain ⟨accepts, reads⟩ :=
    rootRelativePath_of_ofStrings "//out/bin/pkg/app" "//out/./bin" "//out/./bin"
  obtain ⟨file, read, accepted, -⟩ := reads (by decide)
  rw [root] at accepted
  obtain ⟨defined, back, -, planned⟩ := accepts file accepted
  obtain ⟨path, below⟩ := defined.2 reachable
  refine ⟨file, path, read, below, ?_, fun a ho => (planned a ho).2 (.inr reachable)⟩
  rw [back path below, Artifact.path, (ofStrings_eq_ok accepted).1]

/-- An absolute path where the output tree is the working directory. -/
def strayOutput : Artifact := ⟨"/opt/app", ".", by decide, .inr (by decide)⟩

/-- The link of an output outside the output tree. -/
def strayAction : Action where
  toolchain := { binDir := "." }
  ownerLabel := "//pkg:app"
  target := .executable
  staticness := .fullyStatic
  output := some strayOutput

/-- The output is accepted below a root from which nothing leads to it, and its search paths cannot
be planned. -/
theorem rootRelativePath_strayOutput :
    ofStrings "/opt/app" "." = .ok strayOutput ∧
      Description.readArtifact "." (.str "/opt/app") = .ok (some strayOutput) ∧
      strayOutput.rootRelativePath? = none ∧ strayAction.output = some strayOutput ∧
      strayAction.rpathPlan = .error (.noRelativePath (Path.parse "/opt/app")) := by
  have accepted : ofStrings "/opt/app" (Description.defaultRoot "." "/opt/app") =
      .ok strayOutput := by decide
  exact ⟨by decide, Description.readArtifact_str accepted, by decide, rfl, by decide⟩

end Artifact
end LinkSynthesis

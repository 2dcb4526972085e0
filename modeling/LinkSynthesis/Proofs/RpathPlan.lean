import LinkSynthesis.Proofs.Path.Segments
import LinkSynthesis.Proofs.Results
import LinkSynthesis.RpathPlan

/-!
# Search path options and the places they stand for

Every library directory has a place below the solib directory, and its search path option is the
root of the plan with the text of the place behind it. The ways that the root leads are counted from
the output: `IsInTree` says what such a count relies on, and `resolveBelow_stepsUp` that it is
right.
-/

namespace LinkSynthesis

theorem Artifact.require_eq_ok_iff {x : Option Artifact} {file : Artifact} :
    require x = .ok file ↔ x = some file := by
  cases x <;> simp

/-! ### Texts of steps up -/

theorem stepsUp_succ (n : Nat) : stepsUp (n + 1) = ".." ++ "/" ++ stepsUp n := by
  simp [stepsUp, List.replicate_succ]

/-- Steps up in a text are steps up in its path. -/
theorem parse_segments_stepsUp (n : Nat) (text : String) :
    (Path.parse (stepsUp n ++ text)).segments =
      List.replicate n .up ++ (Path.parse text).segments := by
  induction n with
  | zero => simp [stepsUp]
  | succ n ih =>
    have up : (Path.parse "..").segments = [.up] := Path.parse_segments_text .up
    rw [stepsUp_succ, String.append_assoc, Path.parse_segments_append_slash, up, ih,
      List.singleton_append, List.replicate_succ, List.cons_append]

theorem colon_notMem_stepsUp (n : Nat) : ':' ∉ (stepsUp n).toList := by
  induction n with
  | zero => simp [stepsUp]
  | succ n ih => simp [stepsUp_succ, ih]

theorem Action.colon_notMem_origin (a : Action) : ':' ∉ a.origin.toList := by
  unfold origin
  split <;> decide

/-! ### Options of library directories -/

namespace RpathPlan

variable {plan : RpathPlan} {dir : Path}

/-- The search path option for a place below the solib directory. -/
def searchOption (plan : RpathPlan) (place : List Path.Segment) : String :=
  plan.root ++ "/".intercalate (place.map Path.Segment.text)

/-- The root covers a library directory by itself: the solib directory, and for the libraries of the
runtime their own directory. -/
def covers (plan : RpathPlan) (isRuntime : Bool) (dir : Path) : Bool :=
  dir = plan.solibDir || isRuntime && some dir = plan.runtimeSolibDir

/-- A library may lie in a directory. -/
def accepts (plan : RpathPlan) (isRuntime : Bool) (dir : Path) : Bool :=
  dir.isUnder plan.solibDir || isRuntime && some dir = plan.runtimeSolibDir

/-- Where below the solib directory a library directory is searched. Libraries of the link in the
runtime directory are not searched there. -/
def place? (plan : RpathPlan) (isRuntime : Bool) (dir : Path) : Option (List Path.Segment) :=
  if plan.covers isRuntime dir then some []
  else if some dir = plan.runtimeSolibDir then none
  else some (dir.segments.drop plan.solibDir.segments.length)

@[simp] theorem searchOption_nil (plan : RpathPlan) : plan.searchOption [] = plan.root := by
  simp [searchOption]

/-- From a directory under the solib directory no step leads up. -/
theorem libraryOption_of_isUnder {option : Option String}
    (h : plan.libraryOption dir = .ok option) (under : dir.isUnder plan.solibDir = true)
    (hs : dir ≠ plan.solibDir) (hr : some dir ≠ plan.runtimeSolibDir) :
    dir.isAbsolute = plan.solibDir.isAbsolute ∧
      option = some (plan.searchOption (dir.segments.drop plan.solibDir.segments.length)) := by
  unfold libraryOption at h
  rw [if_neg (by simp [hs, hr])] at h
  split at h
  · cases h
  · next absolute =>
    have absolute := not_not.1 absolute
    rw [Path.stepsToCommon?_of_isUnder under] at h
    simp only [Path.ascend_zero, Path.parts_drop absolute, Except.ok.injEq] at h
    refine ⟨absolute, ?_⟩
    rw [← h, searchOption]
    simp [stepsUp]

/-- An accepted directory asks for the option of its place, unless the root covers it. -/
theorem libraryOption_of_accepts {option : Option String} {isRuntime : Bool}
    (h : plan.libraryOption dir = .ok option) (accepted : plan.accepts isRuntime dir = true) :
    option = if plan.covers isRuntime dir then none
      else (plan.place? isRuntime dir).map plan.searchOption := by
  by_cases own : dir = plan.solibDir ∨ some dir = plan.runtimeSolibDir
  · have none : option = none := by
      rw [libraryOption, if_pos own] at h
      exact (Except.ok.inj h).symm
    rw [none]
    cases covered : plan.covers isRuntime dir with
    | true => rfl
    | false =>
      -- A library of the link in the runtime directory: it has no option and no place.
      have runtime : some dir = plan.runtimeSolibDir := by
        refine own.resolve_left fun hs => ?_
        simp [covers, hs] at covered
      simp [place?, covered, runtime]
  · simp only [not_or] at own
    have covered : plan.covers isRuntime dir = false := by simp [covers, own.1, own.2]
    have under : dir.isUnder plan.solibDir = true := by simpa [accepts, own.2] using accepted
    rw [(plan.libraryOption_of_isUnder h under own.1 own.2).2, covered, place?, covered]
    simp [own.2]

/-- A directory where a library may lie asks for an option or needs none. -/
theorem exists_libraryOption {isRuntime : Bool} (solib : plan.solibDir.parts ≠ [])
    (accepted : plan.accepts isRuntime dir = true) :
    ∃ option, plan.libraryOption dir = .ok option := by
  unfold libraryOption
  split
  · exact ⟨_, rfl⟩
  · next own =>
    simp only [not_or] at own
    have under : dir.isUnder plan.solibDir = true := by simpa [accepts, own.2] using accepted
    have absolute := Path.isAbsolute_eq_of_anchor_eq (Path.anchor_eq_of_isUnder under solib)
    rw [if_neg (not_not.2 absolute), Path.stepsToCommon?_of_isUnder under]
    exact ⟨_, rfl⟩

/-- A directory that is no runtime directory of its own is searched at its place. -/
theorem place?_eq (isRuntime : Bool) (hr : some dir = plan.runtimeSolibDir → dir = plan.solibDir) :
    plan.place? isRuntime dir = some (dir.segments.drop plan.solibDir.segments.length) := by
  by_cases hs : dir = plan.solibDir
  · simp [place?, covers, hs]
  · have apart : some dir ≠ plan.runtimeSolibDir := fun he => hs (hr he)
    simp [place?, covers, hs, apart]

end RpathPlan

/-! ### Outputs in the output tree -/

/-- An artifact has no path below its root just if it is an absolute path and the root, though it is
written, has no parts. -/
theorem Artifact.rootRelativePath?_eq_none_iff (file : Artifact) :
    file.rootRelativePath? = none ↔
      file.root ≠ "" ∧ (Path.parse file.root).parts = [] ∧ file.path.isAbsolute = true := by
  unfold rootRelativePath?
  split
  · next hr => simp [hr]
  · next hr =>
    have under : file.path.isUnder (.parse file.root) = true := file.under_root.resolve_left hr
    rw [Path.relativeTo?_eq_none_iff under]
    exact (and_iff_right hr).symm

/-- A path text without the colon that divides run paths and without steps up. -/
def Path.IsPlainText (text : String) : Prop := ':' ∉ text.toList ∧ .up ∉ (parse text).segments

/-- Segments that lead down, without a colon in their texts. -/
def Path.IsWayDown (place : List Segment) : Prop :=
  .up ∉ place ∧ ':' ∉ ("/".intercalate (place.map Segment.text)).toList

theorem Path.isWayDown_nil : IsWayDown [] := by
  constructor <;> simp

/-- From above the directory of a plain path a way leads down to it. -/
theorem Path.IsPlainText.isWayDown_parent {file : Artifact} (h : IsPlainText file.execPath)
    (n : Nat) : IsWayDown (file.parent.segments.drop n) := by
  have sub : file.parent.segments.drop n ⊆ (parse file.execPath).segments := by
    intro s hs
    exact List.dropLast_subset _ (List.drop_subset _ _ hs)
  refine ⟨fun hu => h.2 (sub hu), ?_⟩
  exact notMem_intercalate (by decide) fun s hs hc => h.1 (mem_toList_of_mem_segments (sub hs) hc)

namespace Action

variable {a : Action} {output : Artifact} {plan : RpathPlan}

/-- The output lies strictly below the output tree of the toolchain, and neither it nor the name of
the solib directory is more than a plain way down. -/
structure IsLaidOut (a : Action) (output : Artifact) : Prop where
  output_eq : a.output = some output
  root_eq : Path.parse output.root = Path.parse a.toolchain.binDir
  below : output.path.IsBelow (Path.parse a.toolchain.binDir)
  output_plain : Path.IsPlainText output.execPath
  solib_plain : Path.IsPlainText a.toolchain.solibDirectory
  solib_relative : (Path.parse a.toolchain.solibDirectory).isAbsolute = false

theorem IsLaidOut.solibDir_eq (h : a.IsLaidOut output) :
    a.solibDir = (Path.parse a.toolchain.binDir).descend
      (Path.parse a.toolchain.solibDirectory).segments := by
  simp [solibDir, Path.join, h.solib_relative, Path.descend]

/-- The output lies strictly below the output tree of the toolchain, and its path leads down. -/
structure IsInTree (a : Action) (output : Artifact) : Prop where
  output_eq : a.output = some output
  root_eq : Path.parse output.root = Path.parse a.toolchain.binDir
  below : output.path.IsBelow (Path.parse a.toolchain.binDir)
  down : .up ∉ output.path.segments

theorem IsLaidOut.isInTree (h : a.IsLaidOut output) : a.IsInTree output where
  output_eq := h.output_eq
  root_eq := h.root_eq
  below := h.below
  down := h.output_plain.2

/-- The directory of the output is as many segments below the output tree as steps lead up. -/
theorem IsInTree.exists_sub (h : a.IsInTree output) :
    ∃ sub, output.parent = (Path.parse a.toolchain.binDir).descend sub ∧
      a.outputDepth = .ok sub.length ∧
      .up ∉ (Path.parse a.toolchain.binDir).segments ∧ .up ∉ sub := by
  obtain ⟨sub, last, path⟩ := h.below.exists_descend
  have up : .up ∉ (Path.parse a.toolchain.binDir).segments ++ (sub ++ [last]) := by
    have down := h.down
    rwa [path] at down
  simp only [List.mem_append, not_or] at up
  -- An empty root is the output tree only if that is empty too.
  have relative : output.rootRelativePath? = some ⟨.relative, sub ++ [last]⟩ := by
    unfold Artifact.rootRelativePath?
    split
    · next hr =>
      have empty : Path.parse a.toolchain.binDir = ⟨.relative, []⟩ := by rw [← h.root_eq, hr]; rfl
      rw [path, empty]
      rfl
    · rw [h.root_eq, path, Path.relativeTo?_eq_some_iff]
      exact ⟨Path.join_of_relative rfl, rfl⟩
  refine ⟨sub, ?_, ?_, up.1, up.2.1⟩
  · rw [Artifact.parent, path, Path.descend_append, Path.parent_descend_singleton]
  · rw [outputDepth, h.output_eq, Artifact.require_some, except_bind_ok, relative]
    simp [Path.parts]

/-- The way up from the output leads to the output tree, and a way down behind it to a place
there. -/
theorem IsInTree.resolveBelow_stepsUp (h : a.IsInTree output) {depth : Nat}
    (hd : a.outputDepth = .ok depth) {text : String} (down : .up ∉ (Path.parse text).segments) :
    output.parent.resolveBelow (stepsUp depth ++ text) =
      (Path.parse a.toolchain.binDir).descend (Path.parse text).segments := by
  obtain ⟨sub, hparent, hdepth, hb, hs⟩ := h.exists_sub
  cases hdepth.symm.trans hd
  rw [Path.resolveBelow, parse_segments_stepsUp, hparent]
  exact Path.resolve_up_down hb hs down

/-- The way up from the output and down to a place below the solib directory. -/
theorem IsLaidOut.resolveBelow_solib (h : a.IsLaidOut output) {depth : Nat}
    (hd : a.outputDepth = .ok depth) {place : List Path.Segment} (hp : Path.IsWayDown place) :
    output.parent.resolveBelow (stepsUp depth ++ a.toolchain.solibDirectory ++ "/" ++
      "/".intercalate (place.map Path.Segment.text)) = a.solibDir.descend place := by
  have segments : (Path.parse (a.toolchain.solibDirectory ++ "/" ++
      "/".intercalate (place.map Path.Segment.text))).segments =
        (Path.parse a.toolchain.solibDirectory).segments ++ place := by
    rw [Path.parse_segments_append_slash, Path.parse_segments_intercalate]
  have down : .up ∉ (Path.parse a.toolchain.solibDirectory).segments ++ place := by
    simp [h.solib_plain.2, hp.1]
  have led := h.isInTree.resolveBelow_stepsUp hd (segments ▸ down)
  rw [segments] at led
  rw [h.solibDir_eq]
  simpa [String.append_assoc, Path.descend] using led

/-! ### Plans -/

/-- The ways in the plan of an output that has a place of its own lead up by its depth. -/
theorem rpathPlan_of_apart (apart : a.isSharedNativeLibrary = false) :
    a.rpathPlan = a.outputDepth.map fun depth => {
      solibDir := a.solibDir
      runtimeSolibDir := a.runtimeSolibDir.map Path.parse
      root := "-Wl,-rpath," ++ a.origin ++ stepsUp depth ++ a.toolchain.solibDirectory ++ "/" ++
        if a.nativeDeps then ":" ++ a.origin else ""
      runtimeOption :=
        if a.wantsRuntimeRpath then (a.runtimeSolibDir.map Path.parse).map fun dir =>
          "-Wl,-rpath," ++ a.origin ++ stepsUp depth ++ dir.name ++ "/" else none } := by
  rw [rpathPlan, if_neg (by simp [apart])]
  cases a.outputDepth <;> rfl

/-- A plan fails only for want of the depth of the output, on which that of a shared native library
does not depend. -/
theorem exists_rpathPlan_iff (ho : a.output = some output) : (∃ plan, a.rpathPlan = .ok plan) ↔
    a.isSharedNativeLibrary = true ∨ output.rootRelativePath? ≠ none := by
  cases shared : a.isSharedNativeLibrary with
  | true => simp [rpathPlan, shared]
  | false =>
    rw [rpathPlan_of_apart shared]
    cases relative : output.rootRelativePath? with
    | none =>
      have depth : a.outputDepth = .error (.noRelativePath output.path) := by
        simp [outputDepth, ho, relative]
      simp [depth, Except.map]
    | some path =>
      have depth : a.outputDepth = .ok (path.parts.length - 1) := by
        simp [outputDepth, ho, relative]
      simp [depth, Except.map]

theorem exists_rpathPlan (ho : a.output = some output)
    (hr : output.root = "" ∨ (Path.parse output.root).parts ≠ []) :
    ∃ plan, a.rpathPlan = .ok plan := by
  refine (exists_rpathPlan_iff ho).2 (.inr fun none => ?_)
  obtain ⟨written, empty, -⟩ := output.rootRelativePath?_eq_none_iff.1 none
  exact hr.elim written fun parts => parts empty

/-- A plan has the directories of the action, and its options begin at the origin. -/
theorem rpathPlan_eq_ok (h : a.rpathPlan = .ok plan) : ∃ way up : String, plan = {
    solibDir := a.solibDir
    runtimeSolibDir := a.runtimeSolibDir.map Path.parse
    root := "-Wl,-rpath," ++ a.origin ++ way
    runtimeOption :=
      if a.wantsRuntimeRpath then (a.runtimeSolibDir.map Path.parse).map fun dir =>
        "-Wl,-rpath," ++ a.origin ++ up ++ dir.name ++ "/" else none } := by
  unfold rpathPlan at h
  dsimp only at h
  split at h
  · cases h
    exact ⟨":" ++ a.origin ++ a.toolchain.solibDirectory ++ "/", "../", by
      simp only [String.append_assoc]⟩
  · obtain ⟨depth, -, h⟩ := bind_eq_ok_iff.1 h
    cases h
    exact ⟨stepsUp depth ++ a.toolchain.solibDirectory ++ "/" ++
      if a.nativeDeps then ":" ++ a.origin else "", stepsUp depth, by
      simp only [String.append_assoc]⟩

theorem rpathPlan_dirs (h : a.rpathPlan = .ok plan) :
    plan.solibDir = a.solibDir ∧ plan.runtimeSolibDir = a.runtimeSolibDir.map Path.parse := by
  obtain ⟨way, up, rfl⟩ := rpathPlan_eq_ok h
  exact ⟨rfl, rfl⟩

/-- What an option of a plan begins with. -/
theorem exists_eq_rpath_origin (h : a.rpathPlan = .ok plan) {option : String}
    (ho : option = plan.root ∨ plan.runtimeOption = some option) :
    ∃ way, option = "-Wl,-rpath," ++ a.origin ++ way := by
  obtain ⟨way, up, rfl⟩ := rpathPlan_eq_ok h
  dsimp only at ho
  rcases ho with rfl | ho
  · exact ⟨way, rfl⟩
  · split at ho
    · obtain ⟨dir, -, rfl⟩ := Option.map_eq_some_iff.1 ho
      exact ⟨_, by simp only [String.append_assoc]; rfl⟩
    · cases ho

theorem exists_eq_rpath (h : a.rpathPlan = .ok plan) {option : String}
    (ho : option = plan.root ∨ plan.runtimeOption = some option) :
    ∃ entries, option = "-Wl,-rpath," ++ entries := by
  obtain ⟨way, rfl⟩ := exists_eq_rpath_origin h ho
  exact ⟨_, String.append_assoc ..⟩

/-- The root of the plan of an output that has a place of its own. -/
theorem rpathPlan_root (h : a.rpathPlan = .ok plan) (hs : a.isSharedNativeLibrary = false) :
    ∃ depth, a.outputDepth = .ok depth ∧
      plan.root = "-Wl,-rpath," ++ a.origin ++ stepsUp depth ++ a.toolchain.solibDirectory ++ "/" ++
        if a.nativeDeps then ":" ++ a.origin else "" := by
  rw [rpathPlan_of_apart hs] at h
  obtain ⟨depth, hd, rfl⟩ := map_eq_ok_iff.1 h
  exact ⟨depth, hd, rfl⟩

end Action
end LinkSynthesis

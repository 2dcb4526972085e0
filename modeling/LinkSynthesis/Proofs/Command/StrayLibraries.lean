import LinkSynthesis.Proofs.Action.DraftSession
import LinkSynthesis.Proofs.Command.RawCommand

/-!
# Stray libraries

The one way in which the command of a built action can fail. A shared library lies under the solib
directory, or in the runtime directory if it belongs to the language runtime; any other one is
stray. A command is assembled unless there is a stray library, and then the first one is named.
-/

namespace LinkSynthesis.Action

variable {a : Action} {plan : RpathPlan} {input : LinkerInput} {isRuntime : Bool}
  {whole includeLinkopts : Bool} {error : AssemblyError}

/-- A library may lie in a directory. -/
def accepts (a : Action) (isRuntime : Bool) (dir : Path) : Bool :=
  dir.isUnder a.solibDir || isRuntime && a.runtimeSolibDir.map Path.parse = some dir

theorem accepts_eq (hp : a.rpathPlan = .ok plan) (isRuntime : Bool) (dir : Path) :
    plan.accepts isRuntime dir = a.accepts isRuntime dir := by
  obtain ⟨solib, own⟩ := rpathPlan_dirs hp
  simp only [RpathPlan.accepts, accepts, solib, own, eq_comm]

/-- The libraries that lie where they may not, in the order of the inputs. -/
def strayLibraries (a : Action) : List Artifact :=
  [false, true].flatMap fun isRuntime =>
    (a.libraries isRuntime).filter fun file => !a.accepts isRuntime file.parent

theorem strayLibraries_eq_nil_iff : a.strayLibraries = [] ↔
    (∀ file ∈ a.libraries false, file.parent.isUnder a.solibDir = true) ∧
      ∀ file ∈ a.libraries true, file.parent.isUnder a.solibDir = true ∨
        a.runtimeSolibDir.map Path.parse = some file.parent := by
  have accepted : a.strayLibraries = [] ↔
      ∀ isRuntime, ∀ file ∈ a.libraries isRuntime, a.accepts isRuntime file.parent = true := by
    simp [strayLibraries]
  rw [accepted, Bool.forall_bool]
  simp only [accepts, Bool.false_and, Bool.or_false, Bool.true_and, Bool.or_eq_true,
    decide_eq_true_eq]

/-- The library of an input, if it is stray. -/
def stray? (a : Action) (isRuntime : Bool) (input : LinkerInput) : Option Artifact :=
  input.artifact.filter fun file => file.isDynamicLibrary && !a.accepts isRuntime file.parent

theorem head?_strayLibraries : a.strayLibraries.head? =
    (a.linkerInputs.findSome? (a.stray? false)).or (a.runtimeInputs.findSome? (a.stray? true)) := by
  have ofKind (isRuntime : Bool) :
      (a.libraries isRuntime).filter (fun file => !a.accepts isRuntime file.parent) =
        (a.inputsOf isRuntime).filterMap (a.stray? isRuntime) := by
    rw [libraries, List.filter_filter, List.filter_filterMap]
    unfold stray?
    simp only [Bool.and_comm]
  simp only [strayLibraries, List.flatMap_cons, List.flatMap_nil, List.append_nil, ofKind,
    List.head?_append, List.head?_filterMap, inputsOf]

/-- The error that names a library. -/
def strayError (a : Action) (file : Artifact) : AssemblyError :=
  .outsideSolib file.execPath a.solibDir

/-! ### Inputs whose files are there -/

/-- An input fails to contribute just if it is a stray library. -/
theorem contributionOf_eq_error_iff (hp : a.rpathPlan = .ok plan) (solib : a.solibDir.parts ≠ [])
    (hf : input.artifact.isSome) (members : ∀ member ∈ input.members, member.isSome) :
    a.contributionOf plan isRuntime input = .error error ↔
      (a.stray? isRuntime input).map a.strayError = some error := by
  obtain ⟨file, hf⟩ := Option.isSome_iff_exists.1 hf
  obtain ⟨tokens, ht⟩ := exists_staticTokens (a := a) hf fun _ => members
  rw [contributionOf_eq, ht, hf, Artifact.require_some, except_bind_ok, stray?, hf]
  cases dynamic : file.isDynamicLibrary with
  | false => simp [dynamic]
  | true =>
    cases accepted : plan.accepts isRuntime file.parent with
    | false => simp [dynamic, ← accepts_eq hp, accepted, strayError, (rpathPlan_dirs hp).1]
    | true =>
      have solib : plan.solibDir.parts ≠ [] := (rpathPlan_dirs hp).1 ▸ solib
      obtain ⟨option, ho⟩ := plan.exists_libraryOption solib accepted
      simp [dynamic, ← accepts_eq hp, accepted, dynamicContribution, ho]

/-! ### Commands -/

/-- Input options fail with the first stray library, whatever else is asked of them. -/
theorem inputOptions_eq_error_iff (hp : a.rpathPlan = .ok plan) (solib : a.solibDir.parts ≠ [])
    (complete : a.IsComplete) :
    a.inputOptions whole includeLinkopts = .error error ↔
      a.strayLibraries.head?.map a.strayError = some error := by
  have ofKind (isRuntime : Bool) (e : AssemblyError) :
      (a.inputsOf isRuntime).mapM (a.contributionOf plan isRuntime) = .error e ↔
        ((a.inputsOf isRuntime).findSome? (a.stray? isRuntime)).map a.strayError = some e := by
    rw [List.map_findSome?]
    refine mapM_eq_error_iff fun input hi e => ?_
    obtain ⟨hf, members⟩ := complete.inputs input (mem_inputs_iff.2 ⟨isRuntime, hi⟩)
    exact contributionOf_eq_error_iff hp solib hf members
  have linked := ofKind false
  have runtime := ofKind true
  simp only [inputsOf, contributionOf] at linked runtime
  rw [head?_strayLibraries, inputOptions, hp, except_bind_ok]
  cases hl : a.linkerInputs.mapM (a.linkerContribution plan) with
  | error e =>
    obtain ⟨file, hs, rfl⟩ := Option.map_eq_some_iff.1 ((linked e).1 hl)
    rw [hs]
    simp
  | ok contributions =>
    have none : a.linkerInputs.findSome? (a.stray? false) = none := by
      rw [Option.eq_none_iff_forall_ne_some]
      intro file hs
      cases hl.symm.trans ((linked (a.strayError file)).2 (by rw [hs]; rfl))
    rw [none, Option.none_or, ← runtime, except_bind_ok]
    cases a.runtimeInputs.mapM (a.runtimeContribution plan) <;> simp

theorem compilerCommand_eq_error_iff (complete : a.IsComplete) :
    a.compilerCommand = .error error ↔ a.inputOptions a.needsWholeArchive true = .error error := by
  obtain ⟨output, ho⟩ := Option.isSome_iff_exists.1 complete.output
  have objects : ∀ object ∈ a.linkstampObjects, object.isSome := by
    intro object h
    obtain ⟨stamp, hs, rfl⟩ := List.mem_map.1 h
    exact (complete.linkstamps stamp hs).2
  obtain ⟨present, hobj⟩ := exists_mapM_require objects
  rw [compilerCommand, hobj, except_bind_ok, ho, Artifact.require_some, except_bind_ok]
  cases a.inputOptions a.needsWholeArchive true <;> simp

theorem archiverCommand_eq_error_iff (complete : a.IsComplete) :
    a.archiverCommand = .error error ↔ a.inputOptions false false = .error error := by
  obtain ⟨output, ho⟩ := Option.isSome_iff_exists.1 complete.output
  rw [archiverCommand, ho, Artifact.require_some, except_bind_ok]
  cases a.inputOptions false false <;> simp

theorem exists_interfaceWrapper (complete : a.IsComplete)
    (builder : a.interfaceOutput.isSome → a.interfaceSoBuilder.isSome) :
    ∃ wrapper, a.interfaceWrapper = .ok wrapper := by
  obtain ⟨output, ho⟩ := Option.isSome_iff_exists.1 complete.output
  unfold interfaceWrapper
  split
  · exact ⟨_, rfl⟩
  · next interface hi =>
    obtain ⟨so, hs⟩ := Option.isSome_iff_exists.1 (builder (by rw [hi]; rfl))
    rw [hs, ho]
    exact ⟨_, rfl⟩

/-- A raw command fails as its input options do. -/
theorem rawCommand_eq_error_iff (hp : a.rpathPlan = .ok plan) (solib : a.solibDir.parts ≠ [])
    (complete : a.IsComplete) (target : a.target ≠ .interfaceDynamicLibrary)
    (builder : a.interfaceOutput.isSome → a.interfaceSoBuilder.isSome) :
    a.rawCommand = .error error ↔ a.strayLibraries.head?.map a.strayError = some error := by
  have options (whole includeLinkopts : Bool) :
      a.inputOptions whole includeLinkopts = .error error ↔ _ :=
    inputOptions_eq_error_iff hp solib complete
  unfold rawCommand
  split
  · rw [← options a.needsWholeArchive true, ← compilerCommand_eq_error_iff complete]
    cases a.compilerCommand <;> simp
  · obtain ⟨wrapper, hw⟩ := exists_interfaceWrapper complete builder
    rw [← options a.needsWholeArchive true, ← compilerCommand_eq_error_iff complete, hw,
      except_bind_ok]
    cases a.compilerCommand <;> simp
  · next interface => exact absurd interface target
  · rw [archiverCommand_eq_error_iff complete, options]

/-- **Only a stray library stops a built action.** Its command is assembled exactly when every
library of the link lies under the solib directory and every library of the runtime there or in the
runtime directory; any error names the first library that does not. -/
theorem rawCommand_of_build {d : Draft} (built : d.build = .ok a) (complete : a.IsComplete)
    (solib : a.solibDir.parts ≠ [])
    (root : ∀ output, a.output = some output →
      output.root = "" ∨ (Path.parse output.root).parts ≠ []) :
    ((∃ command, a.rawCommand = .ok command) ↔
      (∀ file ∈ a.libraries false, file.parent.isUnder a.solibDir = true) ∧
        ∀ file ∈ a.libraries true, file.parent.isUnder a.solibDir = true ∨
          a.runtimeSolibDir.map Path.parse = some file.parent) ∧
      ∀ error, a.rawCommand = .error error ↔
        ∃ file, a.strayLibraries.head? = some file ∧
          error = .outsideSolib file.execPath a.solibDir := by
  obtain ⟨target, builder⟩ := Draft.target_and_builder_of_build built
  obtain ⟨output, ho⟩ := Option.isSome_iff_exists.1 complete.output
  obtain ⟨plan, hp⟩ := exists_rpathPlan ho (root output ho)
  have failure (error : AssemblyError) :
      a.rawCommand = .error error ↔ a.strayLibraries.head?.map a.strayError = some error :=
    rawCommand_eq_error_iff hp solib complete target builder.2
  constructor
  · rw [← strayLibraries_eq_nil_iff, exists_eq_ok_iff, ← List.head?_eq_none_iff,
      ← Option.map_eq_none_iff, Option.eq_none_iff_forall_ne_some]
    exact forall_congr' fun error => not_congr (failure error)
  · intro error
    rw [failure, Option.map_eq_some_iff]
    simp only [strayError, eq_comm]

/-- A shared object with an interface. -/
def toolOutput : Artifact := ⟨"out/bin/pkg/libtool.so", "out/bin", by decide, by decide +kernel⟩

/-- The interface of the shared object. -/
def toolInterface : Artifact := ⟨"out/bin/pkg/libtool.ifso", "", by decide, .inl rfl⟩

/-- The builder of the interface. -/
def interfaceBuilder : Artifact := ⟨"tools/iface", "", by decide, .inl rfl⟩

/-- A library of the runtime in the runtime directory. -/
def runtimeLibrary : Artifact := ⟨"out/bin/_rt/libc++.so.1", "", by decide, .inl rfl⟩

/-- A library beside the solib directory, whose name begins as that of the solib directory. -/
def besideLibrary : Artifact := ⟨"out/bin/_solib_extra/libz.so", "", by decide, .inl rfl⟩

/-- The link of the shared object; the library beside the solib directory is meant for the runtime,
and so is the one of the runtime directory. -/
def toolDraft : Draft where
  toolchain := { binDir := "out/bin", solibDirectory := "_solib" }
  ownerLabel := "//pkg:tool"
  target := some .dynamicLibrary
  output := some toolOutput
  interfaceOutput := some toolInterface
  interfaceSoBuilder := some interfaceBuilder
  runtimeInputs := [.plain (some runtimeLibrary), .archive (some besideLibrary) []]
  runtimeSolibDir := some "out/bin/_rt"

theorem rawCommand_of_toolDraft : ∃ a, toolDraft.build = .ok a ∧ a.rawCommand =
    .error (.outsideSolib "out/bin/_solib_extra/libz.so" (Path.parse "out/bin/_solib")) := by
  have built : toolDraft.build = .ok (toolDraft.toAction .dynamicLibrary) := rfl
  have complete : (toolDraft.toAction .dynamicLibrary).IsComplete := by
    constructor <;> decide
  have solib : (toolDraft.toAction .dynamicLibrary).solibDir = Path.parse "out/bin/_solib" := by
    decide
  have root : ∀ output, (toolDraft.toAction .dynamicLibrary).output = some output →
      output.root = "" ∨ (Path.parse output.root).parts ≠ [] := by
    rintro _ ⟨⟩
    exact .inr (by decide)
  refine ⟨_, built, ?_⟩
  rw [← solib]
  exact ((rawCommand_of_build built complete (by rw [solib]; decide) root).2 _).2
    ⟨besideLibrary, by decide, rfl⟩

end LinkSynthesis.Action

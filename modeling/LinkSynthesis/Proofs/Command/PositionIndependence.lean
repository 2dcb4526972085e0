import LinkSynthesis.Action.Draft
import LinkSynthesis.Proofs.Command.InputTokens
import LinkSynthesis.Proofs.Command.RawCommand

/-!
# Position independent executables

Which links ask for a position independent executable. Apart from the flags and paths that are
handed on, only the link of an executable does, where the toolchain forces it: what a dynamic library
is handed on is dropped. Nothing of this looks at whether an executable is linked as a shared object
(`pie_mem_rawCommand_of_shared`).
-/

namespace LinkSynthesis.Action

variable {a : Action} {plan : RpathPlan} {linked runtime : List Contribution}
  {token : String} {command : List String} {output : Artifact} {whole includeLinkopts : Bool}

/-! ### Tokens and linkopts among the input options -/

/-- The arrangement of the inputs does not write the argument by itself. -/
structure IsForeign (a : Action) (token : String) : Prop where
  unmarked : a.wholeArchiveMarkers.IsUnmarked token
  rpath : ∀ entries, token ≠ "-Wl,-rpath," ++ entries
  directory : ∀ dir, token ≠ "-L" ++ dir

/-- Any argument that the arrangement does not write itself is a token of an input or a linkopt. -/
theorem Contributes.mem_arrange_iff (h : a.Contributes plan linked runtime)
    (hp : a.rpathPlan = .ok plan) (foreign : a.IsForeign token) :
    token ∈ a.arrange plan linked runtime whole includeLinkopts ↔
      token ∈ a.inputs.flatMap (·.tokens a.toolchain) ∨
        includeLinkopts = true ∧ token ∈ a.linkopts := by
  have front : token ∉ a.frontOptions plan linked runtime whole ++ a.libraryOptions plan := by
    intro ht
    rw [frontOptions_eq, List.append_assoc] at ht
    rcases List.mem_append.1 ht with opening | options
    · split at opening
      · exact foreign.unmarked.1 (List.mem_singleton.1 opening)
      · cases opening
    · rcases mem_options_cases hp options with ⟨entries, own⟩ | ⟨dir, own⟩
      · exact foreign.rpath entries own
      · exact foreign.directory dir own
  have tokens : token ∈ a.markedTokens linked runtime whole ↔
      token ∈ a.inputs.flatMap (·.tokens a.toolchain) := by
    rw [← h.flatMap_tokens_append]
    refine ⟨fun ht => ?_, mem_markedTokens⟩
    rcases mem_markedTokens_cases ht with own | opening | closing
    · exact own
    · exact absurd opening foreign.unmarked.1
    · exact absurd closing foreign.unmarked.2
  rw [h.arrange_eq, List.mem_append, or_iff_right front, List.mem_append, tokens]
  cases includeLinkopts <;> simp

theorem mem_inputOptions_iff {options : List String}
    (h : a.inputOptions whole includeLinkopts = .ok options) (foreign : a.IsForeign token) :
    token ∈ options ↔ token ∈ a.inputs.flatMap (·.tokens a.toolchain) ∨
      includeLinkopts = true ∧ token ∈ a.linkopts := by
  obtain ⟨plan, linked, runtime, hp, contributes, rfl⟩ := inputOptions_eq_ok h
  exact contributes.mem_arrange_iff hp foreign

theorem linkopts_subset_inputOptions {options : List String}
    (h : a.inputOptions whole true = .ok options) : a.linkopts ⊆ options := by
  obtain ⟨plan, linked, runtime, -, contributes, rfl⟩ := inputOptions_eq_ok h
  rw [contributes.arrange_eq]
  exact fun token ht => List.mem_append_right _ (List.mem_append_right _ ht)

theorem isForeign_pie (a : Action) : a.IsForeign "-pie" where
  unmarked := by
    unfold wholeArchiveMarkers
    split <;> decide
  rpath entries := (append_ne_of_front (by decide) entries).symm
  directory dir := (append_ne_of_front (by decide) dir).symm

/-! ### The option of position independent executables -/

/-- The arguments of a link that stand for files: the compiler, the output, the objects of the
linkstamps and what the inputs are passed by. -/
def fileArguments (a : Action) : List String :=
  a.toolchain.compiler :: ((a.output :: a.linkstampObjects).filterMap id).map (·.execPath) ++
    a.inputs.flatMap (·.tokens a.toolchain)

theorem pie_notMem_symbolCountsOption : "-pie" ∉ a.symbolCountsOption := by
  unfold symbolCountsOption
  split
  · rw [List.mem_singleton]
    exact (append_ne_of_front (by decide) _).symm
  · exact List.not_mem_nil

theorem pie_mem_outputOptions_iff :
    "-pie" ∈ a.outputOptions output ↔ "-pie" = output.execPath := by
  unfold outputOptions
  split <;> simp

theorem pie_notMem_fissionOption : "-pie" ∉ a.fissionOption := by
  unfold fissionOption
  split <;> simp

/-- Apart from linkopts and flags, the compiler is asked where the toolchain forces it for an
executable, or where a file is called so. -/
theorem pie_mem_compilerCommand_iff (h : a.compilerCommand = .ok command)
    (linkopts : "-pie" ∉ a.linkopts) (flags : "-pie" ∉ a.toolchain.flagTexts) :
    "-pie" ∈ command ↔
      (a.target = .executable ∧ a.toolchain.forcePic = true) ∨ "-pie" ∈ a.fileArguments := by
  obtain ⟨objects, output, inputs, hobjects, ho, hi, rfl⟩ := compilerCommand_eq_ok h
  have inputs := mem_inputOptions_iff hi (isForeign_pie a)
  have table : "-pie" ∉ a.toolchain.linkOptions a.staticness a.features a.isSharedLink :=
    fun ht => flags (mem_flagTexts_of_mem_linkOptions ht)
  have shared : "-pie" ∉ if a.target = .dynamicLibrary then ["-shared"] else [] := by
    split <;> simp
  have coverage : "-pie" ∉ if a.toolchain.coverage then ["-lgcov"] else [] := by
    split <;> simp
  have forced : ("-pie" ∈ if a.target = .executable ∧ a.toolchain.forcePic then ["-pie"] else []) ↔
      a.target = .executable ∧ a.toolchain.forcePic = true := by
    split <;> simp [*]
  have files : a.fileArguments = a.toolchain.compiler :: output.execPath ::
      objects.map (·.execPath) ++ a.inputs.flatMap (·.tokens a.toolchain) := by
    simp [fileArguments, hobjects, ho]
  simp only [Toolchain.flagTexts, List.mem_append, not_or] at flags
  simp only [List.mem_append, List.mem_cons, inputs, pie_notMem_symbolCountsOption,
    pie_mem_outputOptions_iff, table, shared, coverage, forced, files, flags, linkopts, and_false,
    or_false]
  simp only [or_comm, or_left_comm]

theorem pie_mem_rawCommand_iff (link : a.target.isStaticLibrary = false)
    (linkopts : "-pie" ∉ a.linkopts) (flags : "-pie" ∉ a.toolchain.flagTexts)
    (h : a.rawCommand = .ok command) :
    "-pie" ∈ command ↔
      a.target = .executable ∧ (a.toolchain.forcePic = true ∨ "-pie" ∈ a.fileArguments) := by
  rcases rawCommand_cases h with ⟨executable, compiler, hc, rfl⟩ |
    ⟨dynamic, wrapper, compiler, -, -, rfl⟩ | ⟨archive, -⟩
  · rw [List.mem_append, or_iff_left pie_notMem_fissionOption,
      pie_mem_compilerCommand_iff hc linkopts flags]
    simp [executable]
  · -- The filter drops what the compiler would be asked for.
    simp [dynamic, pie_notMem_fissionOption]
  · cases link.symm.trans archive

/-- Whatever asks for a shared object, the compiler is asked for one. -/
theorem shared_mem_of_isSharedLink (link : a.target.isStaticLibrary = false)
    (shared : a.isSharedLink = true) (h : a.rawCommand = .ok command) : "-shared" ∈ command := by
  rcases rawCommand_cases h with ⟨executable, compiler, hc, rfl⟩ | ⟨dynamic, -⟩ | ⟨archive, -⟩
  · obtain ⟨objects, output, inputs, -, -, hi, rfl⟩ := compilerCommand_eq_ok hc
    have requested : "-shared" ∈ a.linkopts ∨ "-shared" ∈ a.toolchain.linkFlags := by
      simpa [isSharedLink, executable] using shared
    rcases requested with linkopt | flag
    · have handed := linkopts_subset_inputOptions hi linkopt
      simp [handed]
    · simp [flag]
  · exact shared_mem_rawCommand h dynamic
  · cases link.symm.trans archive

/-- **Shared objects and position independent executables.** Take a link that makes a shared object,
by its kind or by request, and let no linkopt and no flag of the toolchain be `-pie`. Its command
asks for a shared object, and for a position independent executable too exactly if it is the link
of an executable and either the toolchain forces such ones or a file is called `-pie`. -/
theorem pie_mem_rawCommand_of_shared (link : a.target.isStaticLibrary = false)
    (shared : a.isSharedLink = true) (linkopts : "-pie" ∉ a.linkopts)
    (flags : "-pie" ∉ a.toolchain.flagTexts) (h : a.rawCommand = .ok command) :
    "-shared" ∈ command ∧ ("-pie" ∈ command ↔
      a.target = .executable ∧ (a.toolchain.forcePic = true ∨ "-pie" ∈ a.fileArguments)) :=
  ⟨shared_mem_of_isSharedLink link shared h, pie_mem_rawCommand_iff link linkopts flags h⟩

/-- An executable. -/
def shimOutput : Artifact :=
  ⟨"buck-out/bin/shim/loader", "buck-out/bin", by decide, by decide +kernel⟩

/-- The link of the executable as a shared object. -/
def shimDraft (forcePic : Bool) : Draft where
  toolchain := { forcePic }
  ownerLabel := "//shim:loader"
  target := some .executable
  output := some shimOutput
  linkopts := ["-shared"]

theorem pie_mem_rawCommand_shimDraft : ∃ a, (shimDraft false).build = .ok a ∧
    a.isSharedLink = true ∧
    a.rawCommand = .ok ["/usr/bin/gcc", "-o", "buck-out/bin/shim/loader", "-shared"] ∧
    "-pie" ∉ ["/usr/bin/gcc", "-o", "buck-out/bin/shim/loader", "-shared"] := by
  have built : (shimDraft false).build = .ok ((shimDraft false).toAction .executable) := rfl
  have success : ((shimDraft false).toAction .executable).rawCommand =
      .ok ["/usr/bin/gcc", "-o", "buck-out/bin/shim/loader", "-shared"] := by
    decide +kernel
  have files : "-pie" ∉ ((shimDraft false).toAction .executable).fileArguments := by
    decide +kernel
  obtain ⟨-, pie⟩ := pie_mem_rawCommand_of_shared rfl rfl (by decide) (by decide) success
  refine ⟨_, built, rfl, success, fun mem => ?_⟩
  rcases (pie.1 mem).2 with forced | named
  · cases forced
  · exact files named

/-- Where position independence is forced, the link asks for both. -/
theorem pie_mem_rawCommand_forcedShimDraft : ∃ a command, (shimDraft true).build = .ok a ∧
    a.target.isStaticLibrary = false ∧ a.isSharedLink = true ∧ "-pie" ∉ a.linkopts ∧
    "-pie" ∉ a.toolchain.flagTexts ∧ a.rawCommand = .ok command ∧
    "-shared" ∈ command ∧ "-pie" ∈ command :=
  ⟨(shimDraft true).toAction .executable,
    ["/usr/bin/gcc", "-o", "buck-out/bin/shim/loader", "-shared", "-pie"], rfl, rfl, rfl,
    by decide, by decide, by decide +kernel, by decide, by decide⟩

end LinkSynthesis.Action

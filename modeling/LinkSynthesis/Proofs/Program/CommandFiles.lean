import LinkSynthesis.Proofs.Action.DraftSession
import LinkSynthesis.Proofs.Command.FinalScript
import LinkSynthesis.Proofs.Command.StrayLibraries
import LinkSynthesis.Proofs.Program.Breaks

/-!
# Files that commands name

A document may leave out an artifact inside a list, and nothing checks for it: assembling a command
breaks off where the artifact is named. Any other error of the assembly is reported, so what breaks
it off is a file alone (`separates_command`). Which files are named depends on the command: an
archive is always named, its members only if they take its place, and the headers and sources of
linkstamps only if the linkstamps are compiled.
-/

namespace LinkSynthesis
open Program

namespace Action

variable {a : Action} {input : LinkerInput} {output : Artifact}

/-- The error of the assembly is reported. -/
abbrev reportsAssembly (e : AssemblyError) : Bool := (RunError.assembly e).isReported

/-! ### Inputs -/

/-- The file of the input is there, and so are its members if they take its place. -/
def HasFiles (a : Action) (input : LinkerInput) : Prop :=
  ∃ file, input.artifact = some file ∧
    (file.isDynamicLibrary = false → a.usesStartEndLib input = .ok true →
      ∀ member ∈ input.members, member.isSome)

theorem separates_require (file : Option Artifact) :
    Separates reportsAssembly (Artifact.require file) file.isSome := by
  cases file with
  | none => exact .inr (by simp)
  | some file => exact rfl

theorem separates_mapM_require (files : List (Option Artifact)) :
    Separates reportsAssembly (files.mapM Artifact.require) (∀ file ∈ files, file.isSome) :=
  separates_mapM fun file _ => separates_require file

theorem separates_staticTokens {file : Artifact} (hf : input.artifact = some file) :
    Separates reportsAssembly (a.staticTokens input)
      (a.usesStartEndLib input = .ok true → ∀ member ∈ input.members, member.isSome) := by
  obtain ⟨grouped, hg⟩ : ∃ grouped, a.usesStartEndLib input = .ok grouped :=
    ⟨_, usesStartEndLib_eq hf⟩
  rw [staticTokens, hf, Artifact.require_some, except_bind_ok, hg, except_bind_ok]
  cases grouped with
  | true => exact ((separates_mapM_require input.members).bind_pure _).congr (by simp)
  | false => exact (separates_true (by cases input <;> simp)).congr (by simp)

theorem separates_dynamicContribution (plan : RpathPlan) (library : Artifact) (needsRoot : Bool) :
    Separates reportsAssembly (dynamicContribution plan library needsRoot) True := by
  have option : Separates reportsAssembly (plan.libraryOption library.parent) True := by
    unfold RpathPlan.libraryOption
    split
    · trivial
    · split
      · exact .inl rfl
      · split
        · trivial
        · exact .inl rfl
  exact option.bind_pure _

theorem separates_contributionOf (plan : RpathPlan) (isRuntime : Bool) (input : LinkerInput) :
    Separates reportsAssembly (a.contributionOf plan isRuntime input) (a.HasFiles input) := by
  rw [contributionOf_eq]
  cases hf : input.artifact with
  | none => exact .inr fun ⟨_, there, _⟩ => nomatch hf.symm.trans there
  | some file =>
    rw [Artifact.require_some, except_bind_ok]
    cases dynamic : file.isDynamicLibrary with
    | true =>
      -- A shared library contributes its own name and place, whatever members are given.
      have met : a.HasFiles input := ⟨file, hf, fun static => nomatch dynamic.symm.trans static⟩
      rw [if_pos rfl]
      split
      · exact (separates_dynamicContribution plan file _).congr (by simp [met])
      · exact .inl rfl
    | false =>
      rw [if_neg (by decide)]
      exact ((separates_staticTokens hf).bind_pure _).congr (by simp [HasFiles, hf, dynamic])

/-- The plan of an output that is there fails only if the output has no place below its root. -/
theorem separates_rpathPlan (ho : a.output = some output) :
    Separates reportsAssembly a.rpathPlan True := by
  have depth : Separates reportsAssembly a.outputDepth True := by
    rw [outputDepth, ho, Artifact.require_some, except_bind_ok]
    split
    · trivial
    · exact .inl rfl
  unfold rpathPlan
  dsimp only
  split
  · trivial
  · exact depth.bind_pure _

theorem separates_inputOptions (ho : a.output = some output) (whole includeLinkopts : Bool) :
    Separates reportsAssembly (a.inputOptions whole includeLinkopts)
      (∀ input ∈ a.inputs, a.HasFiles input) := by
  have contributions (plan : RpathPlan) (isRuntime : Bool) : Separates reportsAssembly
      ((a.inputsOf isRuntime).mapM (a.contributionOf plan isRuntime))
      (∀ input ∈ a.inputsOf isRuntime, a.HasFiles input) :=
    separates_mapM fun input _ => a.separates_contributionOf plan isRuntime input
  refine ((separates_rpathPlan ho).bind fun plan => (contributions plan false).bind fun linked =>
    (contributions plan true).bind_pure _).congr ?_
  simp [inputsOf, inputs, or_imp, forall_and]

/-! ### Raw commands -/

/-- The files that a raw command names are there. -/
structure HasLinkFiles (a : Action) : Prop where
  inputs : ∀ input ∈ a.inputs, a.HasFiles input
  objects : ∀ object ∈ a.linkstampObjects, object.isSome

theorem separates_compilerCommand (ho : a.output = some output) :
    Separates reportsAssembly a.compilerCommand a.HasLinkFiles := by
  unfold compilerCommand
  rw [ho]
  refine ((separates_mapM_require a.linkstampObjects).bind fun objects =>
    (separates_require (some output)).bind fun output =>
    (separates_inputOptions ho a.needsWholeArchive true).bind_pure _).congr ?_
  exact ⟨fun ⟨objects, _, inputs⟩ => ⟨inputs, objects⟩,
    fun files => ⟨files.objects, rfl, files.inputs⟩⟩

theorem separates_interfaceWrapper (ho : a.output = some output)
    (builder : a.interfaceSoBuilder.isSome ↔ a.interfaceOutput.isSome) :
    Separates reportsAssembly a.interfaceWrapper True := by
  unfold interfaceWrapper
  split
  · trivial
  · next interface made =>
    refine ((separates_require a.interfaceSoBuilder).bind fun builder =>
      (separates_require a.output).bind_pure _).congr ?_
    simp [builder, made, ho]

theorem separates_archiverCommand (ho : a.output = some output) (none : a.linkstamps = []) :
    Separates reportsAssembly a.archiverCommand a.HasLinkFiles := by
  unfold archiverCommand
  rw [ho]
  refine ((separates_require (some output)).bind fun output =>
    (separates_inputOptions ho false false).bind_pure _).congr ?_
  exact ⟨fun ⟨_, inputs⟩ => ⟨inputs, by simp [linkstampObjects, none]⟩,
    fun files => ⟨rfl, files.inputs⟩⟩

/-- The raw command of a built action is given, breaks off for a file or has a reported error. -/
theorem separates_rawCommand {d : Draft} (built : d.build = .ok a) :
    Separates reportsAssembly a.rawCommand a.HasLinkFiles := by
  obtain ⟨allowed, builder⟩ := Draft.target_and_builder_of_build built
  obtain ⟨output, ho⟩ := Draft.exists_output_of_build built
  have compiler : Separates reportsAssembly a.compilerCommand a.HasLinkFiles :=
    separates_compilerCommand ho
  unfold rawCommand
  split
  · exact compiler.bind_pure _
  · exact ((separates_interfaceWrapper ho builder).bind fun _ => compiler.bind_pure _).congr
      (by simp)
  · next interface => exact absurd interface allowed
  · next noExecutable noLibrary noInterface =>
    have archive : a.target.isStaticLibrary = true := by
      cases ht : a.target <;> simp_all [TargetKind.isStaticLibrary]
    exact separates_archiverCommand ho (Draft.linkstamps_of_build built archive)

/-! ### Linkstamp compiles -/

/-- The files that the linkstamp compiles name are there. -/
def HasStampFiles (a : Action) : Prop :=
  a.linkstamps ≠ [] → (∀ header ∈ a.buildInfoHeaders, header.isSome) ∧
    ∀ stamp ∈ a.linkstamps, stamp.source.isSome ∧ stamp.object.isSome

theorem stampCommands_of_nil (none : a.linkstamps = []) (objectPrefix : String) :
    a.stampCommands objectPrefix = .ok [] := by
  rw [stampCommands, none]
  rfl

theorem separates_stampCommands (ho : a.output = some output) (objectPrefix : String) :
    Separates reportsAssembly (a.stampCommands objectPrefix) a.HasStampFiles := by
  by_cases none : a.linkstamps = []
  · rw [stampCommands_of_nil none]
    exact fun stamped => absurd none stamped
  · have label : Separates reportsAssembly a.stampLabel True := by
      unfold stampLabel
      rw [ho]
      split
      · trivial
      · trivial
    have compile (label : String) (output : Artifact) (headers : List Artifact)
        (stamp : Linkstamp) : Separates reportsAssembly
          (a.stampCommand objectPrefix label output headers stamp)
          (stamp.source.isSome ∧ stamp.object.isSome) :=
      (separates_require stamp.source).bind fun source =>
        (separates_require stamp.object).bind_pure _
    unfold stampCommands
    rw [if_neg (by simpa using none)]
    refine (label.bind fun label => (separates_mapM_require a.buildInfoHeaders).bind fun headers =>
      (separates_require a.output).bind fun output =>
      separates_mapM fun stamp _ => compile label output headers stamp).congr ?_
    simp [HasStampFiles, none, ho]

/-- Where linkstamps are compiled, the files of their compiles are there. -/
theorem nonempty_stampFiles_of_stampCommands {d : Draft} {objectPrefix : String}
    {commands : List String} (built : d.build = .ok a) (stamped : a.linkstamps ≠ [])
    (compiled : a.stampCommands objectPrefix = .ok commands) : Nonempty a.StampFiles := by
  obtain ⟨output, ho⟩ := Draft.exists_output_of_build built
  obtain ⟨headers, linkstamps⟩ := (separates_stampCommands ho objectPrefix).of_ok compiled stamped
  exact nonempty_stampFiles (Option.isSome_of_eq_some ho) headers linkstamps

/-- There is a compile for each linkstamp. -/
theorem length_stampCommands {objectPrefix : String} {commands : List String}
    (h : a.stampCommands objectPrefix = .ok commands) :
    commands.length = a.linkstamps.length := by
  by_cases none : a.linkstamps = []
  · rw [stampCommands_of_nil none] at h
    cases h
    rw [none, List.length_nil, List.length_nil]
  · unfold stampCommands at h
    rw [if_neg (by simpa using none)] at h
    obtain ⟨label, -, h⟩ := bind_eq_ok_iff.1 h
    obtain ⟨headers, -, h⟩ := bind_eq_ok_iff.1 h
    obtain ⟨output, -, h⟩ := bind_eq_ok_iff.1 h
    exact (mapM_eq_ok_iff.1 h).length_eq.symm

end Action

/-! ### Commands that options ask for -/

namespace Program

variable {a : Action} {output : Artifact}

/-- The files that the command names are there, and so is the text in front of linkstamp objects if
there are any. -/
structure HasCommandFiles (options : Options) (a : Action) : Prop where
  link : a.HasLinkFiles
  stamps : options.outputPrefix.isSome ∨ options.raw = false → a.HasStampFiles
  objectPrefix : options.outputPrefix = some .takenOut → a.linkstamps = []

/-- Without a text for the prefix there is a command just if it is not needed. -/
theorem separates_commandWithoutPrefix (a : Action) (raw : List String) :
    Separates RunError.isReported (commandWithoutPrefix a raw) (a.linkstamps = []) := by
  unfold commandWithoutPrefix
  dsimp only
  -- No more than one compile is tried, so the number of compiles tells whether there are linkstamps.
  cases h : Action.stampCommands { a with linkstamps := a.linkstamps.take 1 } "" with
  | error e =>
    refine .inr fun none => ?_
    rw [Action.stampCommands_of_nil (by rw [none]; rfl)] at h
    cases h
  | ok commands =>
    have length := Action.length_stampCommands h
    rw [List.length_take] at length
    change Separates _ (if commands.isEmpty then _ else _) _
    split
    · next empty =>
      refine separates_ok.2 (List.eq_nil_of_length_eq_zero ?_)
      rw [List.isEmpty_iff.1 empty, List.length_nil] at length
      omega
    · next compiled =>
      refine .inr fun none => compiled (List.isEmpty_iff.2 (List.eq_nil_of_length_eq_zero ?_))
      rw [length, none]
      rfl

/-- The command of a built action is given, breaks off for a file or has a reported error. -/
theorem separates_command {d : Draft} (built : d.build = .ok a) (options : Options) :
    Separates RunError.isReported (command options a) (HasCommandFiles options a) := by
  obtain ⟨output, ho⟩ := Draft.exists_output_of_build built
  have raw : Separates RunError.isReported (a.rawCommand.mapError .assembly) a.HasLinkFiles :=
    (Action.separates_rawCommand built).mapError RunError.assembly
  have final (words : List String) : Separates RunError.isReported
      ((a.finalCommand words).mapError .assembly) a.HasStampFiles :=
    ((Action.separates_stampCommands ho "").bind_pure _).mapError RunError.assembly
  have quoted (words : List String) (objectPrefix : String) : Separates RunError.isReported
      ((a.finalCommandOfQuoted words objectPrefix).mapError .assembly) a.HasStampFiles :=
    ((Action.separates_stampCommands ho objectPrefix).bind_pure _).mapError RunError.assembly
  unfold command
  cases hp : options.outputPrefix with
  | none =>
    cases hr : options.raw with
    | true =>
      refine (raw.bind_pure id).congr ⟨fun link => ⟨link, ?_, ?_⟩, HasCommandFiles.link⟩
      · simp [hp, hr]
      · simp [hp]
    | false =>
      refine (raw.bind final).congr ⟨fun ⟨link, stamps⟩ => ⟨link, fun _ => stamps, ?_⟩,
        fun files => ⟨files.link, files.stamps (.inr hr)⟩⟩
      simp [hp]
  | some text =>
    cases text with
    | given objectPrefix =>
      refine (raw.bind fun words => quoted words objectPrefix).congr
        ⟨fun ⟨link, stamps⟩ => ⟨link, fun _ => stamps, ?_⟩,
          fun files => ⟨files.link, files.stamps (.inl (by rw [hp]; rfl))⟩⟩
      simp [hp]
    | takenOut =>
      refine (raw.bind fun words => separates_commandWithoutPrefix a words).congr
        ⟨fun ⟨link, unstamped⟩ =>
            ⟨link, fun _ stamped => absurd unstamped stamped, fun _ => unstamped⟩,
          fun files => ⟨files.link, files.objectPrefix hp⟩⟩

end Program
end LinkSynthesis

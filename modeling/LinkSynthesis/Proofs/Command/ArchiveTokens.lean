import LinkSynthesis.Proofs.Command.ArchiveCommand
import LinkSynthesis.Proofs.Command.InputTokens

/-!
# What the archiver is given

The arguments of an archive command behind its output. Inputs are turned into arguments as for a
link, so the archiver gets what a linker would get: nothing but the files, one for each input, if no
shared library is among them and no archive is expanded; in all other cases options that only a
linker knows as well (`rawCommand_of_archive`).
-/

namespace LinkSynthesis

namespace LinkerInput

variable {tc : Toolchain} {input : LinkerInput} {file : Artifact}

/-! ### One token for each input -/

/-- An input with a file is passed by one token, unless it is expanded. -/
theorem length_tokens_eq_one_iff (hf : input.artifact = some file) :
    (input.tokens tc).length = 1 ↔ ¬input.IsExpanded tc := by
  by_cases expanded : input.IsExpanded tc
  · simp [tokens_of_isExpanded expanded, expanded]
  · simp only [expanded, not_false_eq_true, iff_true]
    cases dynamic : file.isDynamicLibrary with
    | true => rw [tokens_of_dynamic hf dynamic, List.length_singleton]
    | false => rw [tokens_of_static hf dynamic expanded, List.length_singleton]

theorem length_tokens_pos (hf : input.artifact = some file) : 0 < (input.tokens tc).length := by
  by_cases expanded : input.IsExpanded tc
  · simp [tokens_of_isExpanded expanded]
  · rw [(length_tokens_eq_one_iff hf).2 expanded]
    exact Nat.one_pos

/-- The tokens of inputs are no fewer than the inputs, and more if an input is expanded. -/
theorem length_le_length_flatMap_tokens (tc : Toolchain) {inputs : List LinkerInput}
    (present : ∀ input ∈ inputs, input.artifact.isSome) :
    inputs.length ≤ (inputs.flatMap (·.tokens tc)).length ∧
      ((inputs.flatMap (·.tokens tc)).length = inputs.length →
        ∀ input ∈ inputs, ¬input.IsExpanded tc) := by
  induction inputs with
  | nil => simp
  | cons input inputs ih =>
    obtain ⟨first, others⟩ := List.forall_mem_cons.1 present
    obtain ⟨file, hf⟩ := Option.isSome_iff_exists.1 first
    obtain ⟨bound, equal⟩ := ih others
    have own : 0 < (input.tokens tc).length := length_tokens_pos hf
    rw [List.flatMap_cons, List.length_append, List.length_cons]
    refine ⟨by omega, fun lengths => List.forall_mem_cons.2 ⟨?_, equal (by omega)⟩⟩
    exact (length_tokens_eq_one_iff hf).1 (by omega)

end LinkerInput

namespace Action

variable {a : Action} {plan : RpathPlan} {command : List String}

/-- The tokens of the files themselves, one for each input. -/
def ownTokens (a : Action) : List String :=
  a.inputs.filterMap fun input => input.artifact.map input.ownToken

/-- No input brings a linker into play: none is a shared library, and none is expanded. -/
structure IsPlain (a : Action) : Prop where
  libraries : a.sharedLibraries = []
  expanded : ∀ input ∈ a.inputs, ¬input.IsExpanded a.toolchain

/-- Plain inputs are passed by their own tokens. -/
theorem IsPlain.flatMap_tokens (h : a.IsPlain) :
    a.inputs.flatMap (·.tokens a.toolchain) = a.ownTokens := by
  rw [ownTokens, List.filterMap_eq_flatMap_toList]
  refine List.flatMap_congr fun input hi => ?_
  cases hf : input.artifact with
  | none =>
    rw [LinkerInput.tokens, hf]
    rfl
  | some file =>
    have static : file.isDynamicLibrary = false := by
      rw [Bool.eq_false_iff]
      intro dynamic
      have shared := mem_sharedLibraries_iff_input.2 ⟨dynamic, input, hi, hf⟩
      rw [h.libraries] at shared
      cases shared
    rw [LinkerInput.tokens_of_static hf static (h.expanded input hi)]
    rfl

theorem IsPlain.libraryOptions_eq_nil (h : a.IsPlain) : a.libraryOptions plan = [] := by
  obtain ⟨linked, runtime⟩ := List.append_eq_nil_iff.1 h.libraries
  simp [libraryOptions, askedOptions, linked, runtime]

theorem IsPlain.needsRoot_eq_false (h : a.IsPlain) : a.needsRoot plan = false := by
  obtain ⟨linked, runtime⟩ := List.append_eq_nil_iff.1 h.libraries
  simp [needsRoot, linked, runtime]

/-- An archive is searched in no directory of a runtime. -/
theorem IsArchiving.runtimeOption_eq_none (h : a.IsArchiving) (hp : a.rpathPlan = .ok plan) :
    plan.runtimeOption = none := by
  obtain ⟨way, up, rfl⟩ := rpathPlan_eq_ok hp
  dsimp only
  rw [h.wantsRuntimeRpath_eq_false, if_neg Bool.false_ne_true]

/-- What stands behind the output of an archive. -/
theorem IsArchiving.exists_rawCommand_eq (h : a.IsArchiving)
    (success : a.rawCommand = .ok command) :
    ∃ output plan linked runtime, a.output = some output ∧ a.rpathPlan = .ok plan ∧
      a.Contributes plan linked runtime ∧
      command = a.toolchain.ar :: a.toolchain.arFlagsFor (a.toolchain.archiveType = .thin) ++
        output.execPath :: ((if a.needsRoot plan then [plan.root] else []) ++
          a.libraryOptions plan ++ a.inputs.flatMap (·.tokens a.toolchain)) := by
  rw [h.rawCommand_eq] at success
  obtain ⟨output, inputs, hout, options, rfl⟩ := archiverCommand_eq_ok success
  obtain ⟨plan, linked, runtime, hp, contributes, rfl⟩ := inputOptions_eq_ok options
  refine ⟨output, plan, linked, runtime, hout, hp, contributes, ?_⟩
  rw [contributes.arrange_eq, contributes.frontOptions_eq_needsRoot,
    markedTokens_of_archive h.target, contributes.flatMap_tokens_append,
    h.runtimeOption_eq_none hp]
  simp

theorem length_ownTokens (present : ∀ input ∈ a.inputs, input.artifact.isSome) :
    a.ownTokens.length = a.inputs.length := by
  refine List.filterMap_length_eq_length.2 fun input hi => ?_
  rw [Option.isSome_map]
  exact present input hi

/-- **What the archiver is given.** The command of a built archive action is the archiver with its
flags, the output, and what is added for the inputs: as for a link, the root of the search paths if
a library needs it, the library options, and the tokens of the inputs. These are just the files, one
token for each input, exactly when no input is a shared library and no archive is expanded.
Otherwise the archiver is given what is meant for a linker: the directory of every shared library,
and the brackets around the members of every expanded archive. -/
theorem rawCommand_of_archive {d : Draft} (built : d.build = .ok a) (archive : d.isArchive = true)
    (success : a.rawCommand = .ok command) :
    ∃ output plan added, a.output = some output ∧ a.rpathPlan = .ok plan ∧
      command = a.toolchain.ar :: a.toolchain.arFlagsFor (a.toolchain.archiveType = .thin) ++
        output.execPath :: added ∧
      added = (if a.needsRoot plan then [plan.root] else []) ++ a.libraryOptions plan ++
        a.inputs.flatMap (·.tokens a.toolchain) ∧
      (added = a.ownTokens ↔ a.IsPlain) ∧
      (∀ file ∈ a.sharedLibraries, "-L" ++ file.parent.toString ∈ added) ∧
      ∀ input ∈ a.inputs, input.IsExpanded a.toolchain →
        "-Wl,--start-lib" :: (input.memberPaths ++ ["-Wl,--end-lib"]) <:+: added := by
  have archiving := isArchiving_of_build built archive
  obtain ⟨output, plan, linked, runtime, hout, hp, contributes, rfl⟩ :=
    archiving.exists_rawCommand_eq success
  have directory (file : Artifact) (hfile : file ∈ a.sharedLibraries) :
      "-L" ++ file.parent.toString ∈ a.libraryOptions plan :=
    linkerOption_mem_libraryOptions hfile
  refine ⟨output, plan, _, hout, hp, rfl, rfl, ⟨fun own => ?_, fun plain => ?_⟩, ?_, ?_⟩
  · have present := contributes.isSome_artifact
    obtain ⟨bound, equal⟩ :=
      LinkerInput.length_le_length_flatMap_tokens a.toolchain present
    have lengths := congrArg List.length own
    rw [length_ownTokens present, List.length_append, List.length_append] at lengths
    refine ⟨List.eq_nil_iff_forall_not_mem.2 fun file hfile => ?_, equal (by omega)⟩
    have some := List.length_pos_of_mem (directory file hfile)
    omega
  · rw [plain.needsRoot_eq_false, plain.libraryOptions_eq_nil, plain.flatMap_tokens]
    rfl
  · intro file hfile
    exact List.mem_append_left _ (List.mem_append_right _ (directory file hfile))
  · intro input hi expanded
    obtain ⟨front, back, inputs⟩ := List.append_of_mem hi
    rw [inputs, List.flatMap_append, List.flatMap_cons, ← LinkerInput.tokens_of_isExpanded expanded,
      ← List.append_assoc _ (List.flatMap _ _)]
    exact List.infix_append' _ _ _

/-- An archive. -/
def utilArchive : Artifact :=
  ⟨"buck-out/bin/util/libutil.a", "buck-out/bin", by decide, by decide +kernel⟩

/-- An object. -/
def utilObject : Artifact := ⟨"buck-out/bin/util/hash.o", "", by decide, .inl rfl⟩

/-- An archive that goes into the other one. -/
def utilPart : Artifact := ⟨"buck-out/bin/util/libpart.a", "", by decide, .inl rfl⟩

/-- The object in it. -/
def utilMember : Artifact := ⟨"buck-out/bin/util/part.o", "", by decide, .inl rfl⟩

/-- The archive action. -/
def utilDraft (archiveType : ArchiveType) : Draft where
  toolchain := { archiveType }
  ownerLabel := "//util:util"
  target := some .staticLibrary
  output := some utilArchive
  linkerInputs := [.fake (some utilObject), .archive (some utilPart) [some utilMember]]

theorem rawCommand_thinUtilDraft : ∃ a added, (utilDraft .thin).build = .ok a ∧
    a.rawCommand = .ok ("/usr/bin/ar" :: ["rcsDT"] ++ "buck-out/bin/util/libutil.a" :: added) ∧
    added = ["fake:buck-out/bin/util/hash.o", "buck-out/bin/util/libpart.a"] := by
  have built : (utilDraft .thin).build = .ok ((utilDraft .thin).toAction .staticLibrary) := rfl
  have success : ((utilDraft .thin).toAction .staticLibrary).rawCommand = .ok ["/usr/bin/ar",
      "rcsDT", "buck-out/bin/util/libutil.a", "fake:buck-out/bin/util/hash.o",
      "buck-out/bin/util/libpart.a"] := by
    decide +kernel
  have plain : ((utilDraft .thin).toAction .staticLibrary).IsPlain := by
    refine ⟨by decide +kernel, fun input _ expanded => ?_⟩
    cases expanded.1
  obtain ⟨output, plan, added, hout, -, command, -, own, -⟩ :=
    rawCommand_of_archive built rfl success
  cases hout
  exact ⟨_, added, built, success.trans (congrArg _ command), own.2 plain⟩

/-- With its object in its place, the archive that goes into the other one brings options for a
linker. -/
theorem rawCommand_expandedUtilDraft : ∃ a added, (utilDraft .startEndLib).build = .ok a ∧
    (utilDraft .startEndLib).isArchive = true ∧
    a.rawCommand = .ok ("/usr/bin/ar" :: ["rcsD"] ++ "buck-out/bin/util/libutil.a" :: added) ∧
    added = ["fake:buck-out/bin/util/hash.o", "-Wl,--start-lib", "buck-out/bin/util/part.o",
      "-Wl,--end-lib"] ∧
    ¬∀ token ∈ added, (∃ file ∈ a.inputFiles, token = file.execPath) ∨
      ∃ file, .fake (some file) ∈ a.inputs ∧ token = fakeObjectMark ++ file.execPath := by
  have built : (utilDraft .startEndLib).build =
      .ok ((utilDraft .startEndLib).toAction .staticLibrary) := rfl
  have success : ((utilDraft .startEndLib).toAction .staticLibrary).rawCommand = .ok
      ["/usr/bin/ar", "rcsD", "buck-out/bin/util/libutil.a", "fake:buck-out/bin/util/hash.o",
        "-Wl,--start-lib", "buck-out/bin/util/part.o", "-Wl,--end-lib"] := by
    decide +kernel
  refine ⟨_, _, built, rfl, success, rfl, fun only => ?_⟩
  rcases only "-Wl,--start-lib" (.tail _ (.head _)) with ⟨file, hfile, same⟩ | ⟨file, -, same⟩
  · have files : ((utilDraft .startEndLib).toAction .staticLibrary).inputFiles =
        [utilObject, utilPart, utilMember] := rfl
    rw [files] at hfile
    simp only [List.mem_cons, List.not_mem_nil, or_false] at hfile
    rcases hfile with rfl | rfl | rfl <;> exact absurd same (by decide)
  · have front := congrArg (·.toList.head?) same
    simp [fakeObjectMark] at front

end Action
end LinkSynthesis

import LinkSynthesis.Proofs.Artifact.NameGrammar
import LinkSynthesis.Proofs.Command.MarkedRegions

/-!
# Tokens of inputs

Every input is passed by tokens that follow from it and the toolchain alone (`LinkerInput.tokens`).
Apart from the whole-archive markers, the added options are the search options, then these tokens,
input by input in the order of the action, and then the linkopts: no input is lost, passed twice or
moved (`strip_eq_of_appendInputOptions`).
-/

namespace LinkSynthesis

/-! ### The tokens of one input -/

namespace LinkerInput

/-- The paths of the members. -/
def memberPaths (input : LinkerInput) : List String :=
  (input.members.filterMap id).map (·.execPath)

/-- The tokens that an input is passed by: a shared library by its name or path, an archive by its
members where the toolchain expands archives, a stand-in by its marked path, any other file by its
path. -/
def tokens (tc : Toolchain) (input : LinkerInput) : List String :=
  match input.artifact with
  | none => []
  | some file =>
    if file.isDynamicLibrary then [Action.dynamicToken file]
    else if tc.archiveType = .startEndLib ∧ input.isExpandable then
      "-Wl,--start-lib" :: (input.memberPaths ++ ["-Wl,--end-lib"])
    else match input with
      | fake _ => [fakeObjectMark ++ file.execPath]
      | _ => [file.execPath]

/-- The members of the input are passed in its place. -/
def IsExpanded (tc : Toolchain) (input : LinkerInput) : Prop :=
  tc.archiveType = .startEndLib ∧ input.isExpandable = true

/-- The token of an input that is passed by the path of its file. -/
def ownToken (input : LinkerInput) (file : Artifact) : String :=
  match input with
  | fake _ => fakeObjectMark ++ file.execPath
  | _ => file.execPath

variable {tc : Toolchain} {input : LinkerInput} {file : Artifact}

theorem tokens_of_dynamic (hf : input.artifact = some file)
    (dynamic : file.isDynamicLibrary = true) : input.tokens tc = [Action.dynamicToken file] := by
  rw [tokens, hf]
  exact if_pos dynamic

theorem tokens_of_isExpanded (h : input.IsExpanded tc) :
    input.tokens tc = "-Wl,--start-lib" :: (input.memberPaths ++ ["-Wl,--end-lib"]) := by
  rw [tokens]
  split
  · next missing =>
    cases input <;> cases missing <;> cases h.2
  · next file hf =>
    rw [if_neg (by simp [FileType.isDynamicLibrary_of_isExpandable h.2 hf])]
    exact if_pos h

theorem tokens_of_static (hf : input.artifact = some file) (static : file.isDynamicLibrary = false)
    (apart : ¬input.IsExpanded tc) : input.tokens tc = [input.ownToken file] := by
  rw [tokens, hf]
  dsimp only
  rw [if_neg (by simp [static])]
  refine (if_neg apart).trans ?_
  cases input <;> rfl

/-- The tokens of an input: brackets and the members between them, or one token for the file. -/
theorem mem_tokens_cases {token : String} (ht : token ∈ input.tokens tc) :
    input.IsExpanded tc ∧ (token = "-Wl,--start-lib" ∨ token = "-Wl,--end-lib" ∨
        ∃ member, some member ∈ input.members ∧ token = member.execPath) ∨
      ¬input.IsExpanded tc ∧ ∃ file, input.artifact = some file ∧
        (file.isDynamicLibrary = true ∧ token = Action.dynamicToken file ∨
          file.isDynamicLibrary = false ∧ token = input.ownToken file) := by
  by_cases expanded : input.IsExpanded tc
  · rw [tokens_of_isExpanded expanded] at ht
    simp only [List.mem_cons, List.mem_append, List.not_mem_nil, or_false] at ht
    rcases ht with opening | ht | closing
    · exact .inl ⟨expanded, .inl opening⟩
    · obtain ⟨member, hm, rfl⟩ := List.mem_map.1 ht
      obtain ⟨_, hm, rfl⟩ := List.mem_filterMap.1 hm
      exact .inl ⟨expanded, .inr (.inr ⟨member, hm, rfl⟩)⟩
    · exact .inl ⟨expanded, .inr (.inl closing)⟩
  · cases hf : input.artifact with
    | none =>
      rw [tokens, hf] at ht
      cases ht
    | some file =>
      refine .inr ⟨expanded, file, rfl, ?_⟩
      cases dynamic : file.isDynamicLibrary with
      | true =>
        rw [tokens_of_dynamic hf dynamic, List.mem_singleton] at ht
        exact .inl ⟨rfl, ht⟩
      | false =>
        rw [tokens_of_static hf dynamic expanded, List.mem_singleton] at ht
        exact .inr ⟨rfl, ht⟩

end LinkerInput

namespace Action

variable {a : Action} {plan : RpathPlan} {input : LinkerInput} {file : Artifact} {c : Contribution}
  {isRuntime : Bool} {linked runtime : List Contribution} {tokens arguments result : List String}
  {whole includeLinkopts : Bool}

theorem staticTokens_eq_ok (hf : input.artifact = some file)
    (static : file.isDynamicLibrary = false) (h : a.staticTokens input = .ok tokens) :
    tokens = input.tokens a.toolchain := by
  rw [staticTokens, hf, Artifact.require_some, except_bind_ok, usesStartEndLib_eq hf,
    except_bind_ok] at h
  by_cases expanded : input.IsExpanded a.toolchain
  · rw [if_pos (by simpa [LinkerInput.IsExpanded] using expanded)] at h
    rw [LinkerInput.tokens_of_isExpanded expanded, LinkerInput.memberPaths]
    obtain ⟨members, hm, h⟩ := bind_eq_ok_iff.1 h
    cases h
    rw [Artifact.mapM_require_eq_ok_iff.1 hm]
    simp
  · rw [if_neg (by simpa [LinkerInput.IsExpanded] using expanded)] at h
    rw [LinkerInput.tokens_of_static hf static expanded]
    cases input <;> cases h <;> rfl

/-- An input contributes its tokens. -/
theorem tokens_of_contributionOf (h : a.contributionOf plan isRuntime input = .ok c) :
    c.tokens = input.tokens a.toolchain := by
  obtain ⟨file, hf, ⟨dynamic, -, rfl⟩ | ⟨static, tokens, ht, rfl⟩⟩ := contributionOf_cases h
  · rw [LinkerInput.tokens, hf]
    dsimp only
    rw [if_pos dynamic]
    rfl
  · exact staticTokens_eq_ok hf static ht

/-! ### All inputs -/

theorem flatMap_tokens {inputs : List LinkerInput} {contributions : List Contribution}
    (h : List.Forall₂ (fun input c => a.contributionOf plan isRuntime input = .ok c)
      inputs contributions) :
    contributions.flatMap (·.tokens) = inputs.flatMap (·.tokens a.toolchain) := by
  induction h with
  | nil => rfl
  | cons contributed _ ih =>
    rw [List.flatMap_cons, List.flatMap_cons, ih, tokens_of_contributionOf contributed]

/-- Only libraries in a directory that the root covers need the root. -/
theorem any_needsRoot {inputs : List LinkerInput} {contributions : List Contribution}
    (h : List.Forall₂ (fun input c => a.contributionOf plan isRuntime input = .ok c)
      inputs contributions) :
    contributions.any (·.needsRoot) =
      ((inputs.filterMap (·.artifact)).filter (·.isDynamicLibrary)).any
        (plan.covers isRuntime ·.parent) := by
  induction h with
  | nil => rfl
  | cons contributed _ ih =>
    obtain ⟨file, hf, ⟨dynamic, -, rfl⟩ | ⟨static, tokens, -, rfl⟩⟩ :=
      contributionOf_cases contributed
    · simp [hf, dynamic, ih, libraryContribution]
    · simp [hf, static, ih]

/-- A library of the action lies in a directory that the root covers. -/
def needsRoot (a : Action) (plan : RpathPlan) : Bool :=
  [false, true].any fun isRuntime => (a.libraries isRuntime).any (plan.covers isRuntime ·.parent)

namespace Contributes

variable (h : a.Contributes plan linked runtime)

include h

theorem flatMap_tokens_linked :
    linked.flatMap (·.tokens) = a.linkerInputs.flatMap (·.tokens a.toolchain) :=
  flatMap_tokens h.forall₂_linked

theorem flatMap_tokens_runtime :
    runtime.flatMap (·.tokens) = a.runtimeInputs.flatMap (·.tokens a.toolchain) :=
  flatMap_tokens h.forall₂_runtime

/-- The tokens of all inputs, those of the link first. -/
theorem flatMap_tokens_append :
    (linked ++ runtime).flatMap (·.tokens) = a.inputs.flatMap (·.tokens a.toolchain) := by
  rw [List.flatMap_append, h.flatMap_tokens_linked, h.flatMap_tokens_runtime, inputs,
    List.flatMap_append]

theorem any_needsRoot_append : (linked ++ runtime).any (·.needsRoot) = a.needsRoot plan := by
  have ofLinked : linked.any (·.needsRoot) = (a.libraries false).any _ :=
    any_needsRoot h.forall₂_linked
  have ofRuntime : runtime.any (·.needsRoot) = (a.libraries true).any _ :=
    any_needsRoot h.forall₂_runtime
  rw [List.any_append, ofLinked, ofRuntime]
  simp [needsRoot]

theorem frontOptions_eq_needsRoot (whole : Bool) : a.frontOptions plan linked runtime whole =
    (if whole then [a.wholeArchiveMarkers.opening] else []) ++ plan.runtimeOption.toList ++
      if a.needsRoot plan then [plan.root] else [] := by
  rw [frontOptions, h.any_needsRoot_append]

end Contributes

/-- **No input is lost, passed twice or moved.** Apart from markers, the arguments with the added
options are: those in front, the option of the runtime directory, the root if a library lies where
it is needed, the library options, the tokens of the linker inputs and of the runtime inputs in
their order, and the linkopts. -/
theorem strip_eq_of_appendInputOptions
    (success : a.appendInputOptions arguments whole includeLinkopts = .ok result) :
    ∃ plan, a.rpathPlan = .ok plan ∧ a.wholeArchiveMarkers.strip result =
      a.wholeArchiveMarkers.strip (arguments ++ plan.runtimeOption.toList ++
        (if (a.libraries false).any (fun file => file.parent = plan.solibDir) ||
            (a.libraries true).any (fun file =>
              file.parent = plan.solibDir || some file.parent = plan.runtimeSolibDir)
          then [plan.root] else []) ++
        a.libraryOptions plan ++ a.linkerInputs.flatMap (·.tokens a.toolchain) ++
        a.runtimeInputs.flatMap (·.tokens a.toolchain) ++
        if includeLinkopts then a.linkopts else []) := by
  obtain ⟨plan, linked, runtime, hp, contributes, rfl⟩ := appendInputOptions_eq_ok success
  refine ⟨plan, hp, ?_⟩
  have front : a.frontOptions plan linked runtime false = plan.runtimeOption.toList ++
      if a.needsRoot plan then [plan.root] else [] :=
    contributes.frontOptions_eq_needsRoot false
  have root : a.needsRoot plan =
      ((a.libraries false).any (fun file => file.parent = plan.solibDir) ||
        (a.libraries true).any fun file =>
          file.parent = plan.solibDir || some file.parent = plan.runtimeSolibDir) := by
    simp [needsRoot, RpathPlan.covers]
  rw [WholeArchiveMarkers.strip_append, strip_arrange, ← WholeArchiveMarkers.strip_append,
    contributes.flatMap_searchOptions_append, List.flatMap_append,
    contributes.flatMap_tokens_linked, contributes.flatMap_tokens_runtime, front, root]
  simp only [List.append_assoc, libraryOptions]

/-- An executable. -/
def workerOutput : Artifact :=
  ⟨"buck-out/bin/app/worker", "buck-out/bin", by decide, by decide +kernel⟩

/-- Handlers that register themselves. -/
def workerHandlers : Artifact := ⟨"buck-out/bin/app/libhandlers.lo", "", by decide, .inl rfl⟩

/-- An archive whose object is passed in its place. -/
def workerArchive : Artifact := ⟨"buck-out/bin/app/libqueue.a", "", by decide, .inl rfl⟩

/-- The object in the archive. -/
def workerObject : Artifact := ⟨"buck-out/bin/app/queue.o", "", by decide, .inl rfl⟩

/-- A shared library in the solib directory. -/
def workerLibrary : Artifact := ⟨"buck-out/bin/_solib_k8/libdb.so", "", by decide, .inl rfl⟩

/-- A shared library of the runtime, with a version. -/
def workerRuntime : Artifact := ⟨"buck-out/bin/_rt/libc++.so.1", "", by decide, .inl rfl⟩

/-- The link of the executable, with a stand-in between two libraries. -/
def workerAction : Action where
  toolchain := { archiveType := .startEndLib }
  ownerLabel := "//app:worker"
  target := .executable
  staticness := .dynamic
  output := some workerOutput
  linkerInputs := [.plain (some workerHandlers), .archive (some workerArchive) [some workerObject],
    .fake (some workerObject), .plain (some workerLibrary)]
  runtimeInputs := [.plain (some workerRuntime), .plain (some workerHandlers)]
  linkopts := ["-lm"]
  runtimeSolibDir := some "buck-out/bin/_rt"

theorem strip_workerAction : ∃ result,
    workerAction.appendInputOptions ["gcc"] false true = .ok result ∧
      workerAction.wholeArchiveMarkers.strip result = ["gcc", "-Wl,-rpath,$ORIGIN/../_rt/",
        "-Wl,-rpath,$ORIGIN/../_solib_k8/", "-Lbuck-out/bin/_solib_k8", "-Lbuck-out/bin/_rt",
        "buck-out/bin/app/libhandlers.lo", "-Wl,--start-lib", "buck-out/bin/app/queue.o",
        "-Wl,--end-lib", "fake:buck-out/bin/app/queue.o", "-ldb", "buck-out/bin/_rt/libc++.so.1",
        "buck-out/bin/app/libhandlers.lo", "-lm"] := by
  have success : workerAction.appendInputOptions ["gcc"] false true = .ok ["gcc",
      "-Wl,-rpath,$ORIGIN/../_rt/", "-Wl,-rpath,$ORIGIN/../_solib_k8/", "-Lbuck-out/bin/_solib_k8",
      "-Lbuck-out/bin/_rt", "-Wl,-whole-archive", "buck-out/bin/app/libhandlers.lo",
      "-Wl,-no-whole-archive", "-Wl,--start-lib", "buck-out/bin/app/queue.o", "-Wl,--end-lib",
      "fake:buck-out/bin/app/queue.o", "-ldb", "buck-out/bin/_rt/libc++.so.1",
      "-Wl,-whole-archive", "buck-out/bin/app/libhandlers.lo", "-Wl,-no-whole-archive", "-lm"] := by
    decide +kernel
  obtain ⟨plan, hp, stripped⟩ := strip_eq_of_appendInputOptions success
  have plan_eq : workerAction.rpathPlan = .ok {
      solibDir := workerAction.solibDir
      runtimeSolibDir := some (Path.parse "buck-out/bin/_rt")
      root := "-Wl,-rpath,$ORIGIN/../_solib_k8/"
      runtimeOption := some "-Wl,-rpath,$ORIGIN/../_rt/" } := by
    decide +kernel
  cases hp.symm.trans plan_eq
  refine ⟨_, success, stripped.trans ?_⟩
  decide +kernel

end Action
end LinkSynthesis

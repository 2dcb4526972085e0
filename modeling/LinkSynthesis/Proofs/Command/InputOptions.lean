import LinkSynthesis.Command.InputOptions
import LinkSynthesis.Proofs.RpathPlan

/-!
# The parts of the input options

What successful input options are made of: the contribution of every input, and the arrangement of
the contributions. Each lemma takes one step of the assembly apart, so that later proofs need not
look inside it.
-/

namespace LinkSynthesis

/-! ### Files that are there -/

theorem Artifact.mapM_require_eq_ok_iff {l : List (Option Artifact)} {files : List Artifact} :
    l.mapM require = .ok files ↔ l = files.map some := by
  rw [mapM_eq_ok_iff]
  simp only [require_eq_ok_iff]
  rw [← List.forall₂_map_right_iff, List.forall₂_eq_eq_eq]

theorem Artifact.eq_absentArtifact_of_mapM_require {files : List (Option Artifact)}
    {e : AssemblyError} (h : files.mapM require = .error e) : e = .absentArtifact := by
  have single : ∀ file ∈ files, ∀ e, require file = .error e ↔
      (if file.isNone then some AssemblyError.absentArtifact else none) = some e := by
    rintro (_ | file) <;> simp
  obtain ⟨file, -, absent⟩ := List.exists_of_findSome?_eq_some ((mapM_eq_error_iff single).1 h)
  cases file with
  | none => exact (Option.some.inj absent).symm
  | some file => cases absent

/-- The input is an archive by its name too, and there are members to pass in its place. -/
def LinkerInput.isExpandable : LinkerInput → Bool
  | archive (some file) members => FileType.isArchive file.filename && !members.isEmpty
  | _ => false

namespace Action

variable {a : Action} {plan : RpathPlan} {input : LinkerInput} {c : Contribution} {file : Artifact}
  {isRuntime : Bool}

/-! ### Inputs of both kinds -/

/-- The inputs of the link, or those of the language runtime. -/
def inputsOf (a : Action) : Bool → List LinkerInput
  | false => a.linkerInputs
  | true => a.runtimeInputs

theorem mem_inputs_iff : input ∈ a.inputs ↔ ∃ isRuntime, input ∈ a.inputsOf isRuntime := by
  simp [inputs, inputsOf]

/-- The shared libraries among the inputs of a kind. -/
def libraries (a : Action) (isRuntime : Bool) : List Artifact :=
  ((a.inputsOf isRuntime).filterMap (·.artifact)).filter (·.isDynamicLibrary)

theorem mem_libraries_iff : file ∈ a.libraries isRuntime ↔
    file.isDynamicLibrary = true ∧ ∃ input ∈ a.inputsOf isRuntime, input.artifact = some file := by
  rw [libraries, List.mem_filter, List.mem_filterMap, and_comm]

/-- The places below the solib directory that are searched for the libraries of the action. -/
def places (a : Action) (plan : RpathPlan) : List (List Path.Segment) :=
  (a.libraries false).filterMap (plan.place? false ·.parent) ++
    (a.libraries true).filterMap (plan.place? true ·.parent)

theorem mem_places_iff {place : List Path.Segment} : place ∈ a.places plan ↔
    ∃ isRuntime, ∃ file ∈ a.libraries isRuntime,
      plan.place? isRuntime file.parent = some place := by
  simp [places]

/-- Every file that an input names, members of archives included. -/
def inputFiles (a : Action) : List Artifact :=
  (a.inputs.flatMap fun input => input.artifact :: input.members).filterMap id

theorem mem_inputFiles_iff : file ∈ a.inputFiles ↔
    ∃ input ∈ a.inputs, input.artifact = some file ∨ some file ∈ input.members := by
  simp [inputFiles, eq_comm]

/-! ### Files passed in the place of an input -/

theorem exists_mapM_require {files : List (Option Artifact)} (h : ∀ file ∈ files, file.isSome) :
    ∃ present, files.mapM Artifact.require = .ok present := by
  refine exists_mapM_eq_ok fun file hfile => ?_
  obtain ⟨present, rfl⟩ := Option.isSome_iff_exists.1 (h file hfile)
  exact ⟨present, rfl⟩

theorem usesStartEndLib_eq (hf : input.artifact = some file) : a.usesStartEndLib input =
    .ok (a.toolchain.archiveType = .startEndLib && input.isExpandable) := by
  cases input with
  | plain | fake => simp [usesStartEndLib, LinkerInput.isExpandable]
  | archive _ members =>
    cases hf
    by_cases expands : a.toolchain.archiveType = .startEndLib
    · simp [usesStartEndLib, LinkerInput.isExpandable, expands]
    · simp [usesStartEndLib, expands]

/-- An input that is not linked dynamically has tokens if the files to pass in its place are
there. -/
theorem exists_staticTokens (hf : input.artifact = some file)
    (present : input.isExpandable = true → ∀ member ∈ input.members, member.isSome) :
    ∃ tokens, a.staticTokens input = .ok tokens := by
  rw [staticTokens, hf, Artifact.require_some, except_bind_ok, usesStartEndLib_eq hf,
    except_bind_ok]
  split
  · next expands =>
    rw [Bool.and_eq_true] at expands
    obtain ⟨members, hm⟩ := exists_mapM_require (present expands.2)
    rw [hm]
    exact ⟨_, rfl⟩
  · split
    · exact ⟨_, rfl⟩
    · exact ⟨_, rfl⟩

/-! ### Contributions -/

/-- The contribution of an input of a kind. -/
def contributionOf (a : Action) (plan : RpathPlan) :
    Bool → LinkerInput → Except AssemblyError Contribution
  | false => a.linkerContribution plan
  | true => a.runtimeContribution plan

/-- The kinds differ in the directories where a library may lie, and in those that the root covers.
Nothing else tells them apart. -/
theorem contributionOf_eq (isRuntime : Bool) : a.contributionOf plan isRuntime input = (do
    let file ← Artifact.require input.artifact
    if file.isDynamicLibrary then
      if plan.accepts isRuntime file.parent then
        dynamicContribution plan file (plan.covers isRuntime file.parent)
      else throw (.outsideSolib file.execPath plan.solibDir)
    else return { tokens := ← a.staticTokens input }) := by
  cases isRuntime <;>
    simp [contributionOf, linkerContribution, runtimeContribution, RpathPlan.accepts,
      RpathPlan.covers]

theorem dynamicContribution_eq_ok {library : Artifact} {needsRoot : Bool}
    (h : dynamicContribution plan library needsRoot = .ok c) :
    ∃ rpath : Option String, plan.libraryOption library.parent = .ok rpath ∧ c = {
      tokens := [dynamicToken library]
      searchOptions := rpath.toList ++ ["-L" ++ library.parent.toString]
      needsRoot } := by
  obtain ⟨rpath, hr, h⟩ := bind_eq_ok_iff.1 h
  cases h
  exact ⟨rpath, hr, rfl⟩

/-- What a library contributes: its search options are that of its place, unless the root covers its
directory, and that of the directory for the linker. -/
def libraryContribution (plan : RpathPlan) (isRuntime : Bool) (library : Artifact) :
    Contribution where
  tokens := [dynamicToken library]
  searchOptions :=
    (if plan.covers isRuntime library.parent then none
      else (plan.place? isRuntime library.parent).map plan.searchOption).toList ++
        ["-L" ++ library.parent.toString]
  needsRoot := plan.covers isRuntime library.parent

/-- An input contributes as a library in an accepted directory, or the tokens of its files. -/
theorem contributionOf_cases (h : a.contributionOf plan isRuntime input = .ok c) :
    ∃ file, input.artifact = some file ∧
      (file.isDynamicLibrary = true ∧ plan.accepts isRuntime file.parent = true ∧
          c = libraryContribution plan isRuntime file ∨
        file.isDynamicLibrary = false ∧
          ∃ tokens, a.staticTokens input = .ok tokens ∧ c = { tokens }) := by
  rw [contributionOf_eq] at h
  obtain ⟨file, hf, h⟩ := bind_eq_ok_iff.1 h
  refine ⟨file, Artifact.require_eq_ok_iff.1 hf, ?_⟩
  cases dynamic : file.isDynamicLibrary with
  | true =>
    rw [dynamic, if_pos rfl] at h
    split at h
    · next accepted =>
      obtain ⟨rpath, hr, rfl⟩ := dynamicContribution_eq_ok h
      rw [plan.libraryOption_of_accepts hr accepted]
      exact .inl ⟨rfl, accepted, rfl⟩
    · cases h
  | false =>
    rw [dynamic, if_neg (by decide)] at h
    obtain ⟨tokens, ht, h⟩ := bind_eq_ok_iff.1 h
    cases h
    exact .inr ⟨rfl, tokens, ht, rfl⟩

/-- A shared library contributes as one. -/
theorem contributionOf_of_dynamic (h : a.contributionOf plan isRuntime input = .ok c)
    (hf : input.artifact = some file) (dynamic : file.isDynamicLibrary = true) :
    plan.accepts isRuntime file.parent = true ∧ c = libraryContribution plan isRuntime file := by
  obtain ⟨file', hf', ⟨-, library⟩ | ⟨static, -⟩⟩ := contributionOf_cases h
  · cases hf.symm.trans hf'
    exact library
  · cases hf.symm.trans hf'
    exact absurd (dynamic.symm.trans static) (by decide)

/-- The directory of a library lies below the solib directory at its place. -/
theorem descend_of_contributionOf (h : a.contributionOf plan isRuntime input = .ok c)
    (hf : input.artifact = some file) (dynamic : file.isDynamicLibrary = true)
    (under : file.parent.isUnder plan.solibDir = true)
    (hr : some file.parent = plan.runtimeSolibDir → file.parent = plan.solibDir) :
    plan.solibDir.descend (file.parent.segments.drop plan.solibDir.segments.length) =
      file.parent := by
  by_cases hs : file.parent = plan.solibDir
  · simp [hs]
  · rw [contributionOf_eq, hf, Artifact.require_some, except_bind_ok, dynamic, if_pos rfl,
      if_pos (by simp [RpathPlan.accepts, under])] at h
    obtain ⟨rpath, ho, -⟩ := dynamicContribution_eq_ok h
    obtain ⟨absolute, -⟩ := plan.libraryOption_of_isUnder ho under hs fun own => hs (hr own)
    obtain ⟨anchor, segments⟩ := (Path.isUnder_iff_segments absolute).1 under
    exact Path.descend_drop anchor segments

/-! ### Arrangement -/

/-- What the inputs of both kinds contribute. -/
structure Contributes (a : Action) (plan : RpathPlan) (linked runtime : List Contribution) :
    Prop where
  linked : a.linkerInputs.mapM (a.linkerContribution plan) = .ok linked
  runtime : a.runtimeInputs.mapM (a.runtimeContribution plan) = .ok runtime

variable {linked runtime : List Contribution} {whole includeLinkopts : Bool}
  {arguments result options : List String}

theorem inputOptions_eq_ok (h : a.inputOptions whole includeLinkopts = .ok options) :
    ∃ plan linked runtime, a.rpathPlan = .ok plan ∧ a.Contributes plan linked runtime ∧
      options = a.arrange plan linked runtime whole includeLinkopts := by
  obtain ⟨plan, hp, h⟩ := bind_eq_ok_iff.1 h
  obtain ⟨linked, hl, h⟩ := bind_eq_ok_iff.1 h
  obtain ⟨runtime, hr, h⟩ := bind_eq_ok_iff.1 h
  cases h
  exact ⟨plan, linked, runtime, hp, ⟨hl, hr⟩, rfl⟩

theorem appendInputOptions_eq_ok
    (h : a.appendInputOptions arguments whole includeLinkopts = .ok result) :
    ∃ plan linked runtime, a.rpathPlan = .ok plan ∧ a.Contributes plan linked runtime ∧
      result = arguments ++ a.arrange plan linked runtime whole includeLinkopts := by
  obtain ⟨options, ho, rfl⟩ := map_eq_ok_iff.1 h
  obtain ⟨plan, linked, runtime, hp, contributes, rfl⟩ := inputOptions_eq_ok ho
  exact ⟨plan, linked, runtime, hp, contributes, rfl⟩

namespace Contributes

variable (h : a.Contributes plan linked runtime)

include h

theorem exists_of_input (hi : input ∈ a.inputsOf isRuntime) :
    ∃ c ∈ linked ++ runtime, a.contributionOf plan isRuntime input = .ok c := by
  cases isRuntime with
  | false =>
    obtain ⟨c, hc, contributed⟩ := exists_result_of_mem h.linked hi
    exact ⟨c, List.mem_append_left _ hc, contributed⟩
  | true =>
    obtain ⟨c, hc, contributed⟩ := exists_result_of_mem h.runtime hi
    exact ⟨c, List.mem_append_right _ hc, contributed⟩

theorem exists_of_mem (hc : c ∈ linked ++ runtime) :
    ∃ isRuntime, ∃ input ∈ a.inputsOf isRuntime, a.contributionOf plan isRuntime input = .ok c := by
  rcases List.mem_append.1 hc with hc | hc
  · exact ⟨false, exists_of_mem_results h.linked hc⟩
  · exact ⟨true, exists_of_mem_results h.runtime hc⟩

/-- Every input names a file. -/
theorem isSome_artifact : ∀ input ∈ a.inputs, input.artifact.isSome := by
  intro input hi
  obtain ⟨isRuntime, hi⟩ := mem_inputs_iff.1 hi
  obtain ⟨c, -, contributed⟩ := h.exists_of_input hi
  obtain ⟨file, hf, -⟩ := contributionOf_cases contributed
  rw [hf]
  rfl

end Contributes

/-! ### Where a token comes from -/

/-- The options that inputs are passed by, and those by which the linker finds libraries. -/
inductive IsInputOption : String → Prop
  | startLib : IsInputOption "-Wl,--start-lib"
  | endLib : IsInputOption "-Wl,--end-lib"
  | directory (dir : String) : IsInputOption ("-L" ++ dir)
  | library (name : String) : IsInputOption ("-l" ++ name)
  | fakeObject (path : String) : IsInputOption (fakeObjectMark ++ path)

variable {token : String} {tokens : List String}

theorem mem_staticTokens_cases (h : a.staticTokens input = .ok tokens) (ht : token ∈ tokens) :
    (∃ file, (input.artifact = some file ∨ some file ∈ input.members) ∧ token = file.execPath) ∨
      IsInputOption token := by
  obtain ⟨file, hf, h⟩ := bind_eq_ok_iff.1 h
  have hf := Artifact.require_eq_ok_iff.1 hf
  obtain ⟨grouped, -, h⟩ := bind_eq_ok_iff.1 h
  split at h
  · obtain ⟨files, hfiles, h⟩ := bind_eq_ok_iff.1 h
    cases h
    rw [Artifact.mapM_require_eq_ok_iff] at hfiles
    simp only [List.mem_cons, List.mem_append, List.mem_map, List.mem_nil_iff, or_false] at ht
    rcases ht with rfl | ⟨member, hm, rfl⟩ | rfl
    · exact .inr .startLib
    · exact .inl ⟨member, .inr (hfiles ▸ List.mem_map_of_mem hm), rfl⟩
    · exact .inr .endLib
  · split at h
    · cases h
      rw [List.mem_singleton.1 ht]
      exact .inr (.fakeObject _)
    · cases h
      rw [List.mem_singleton.1 ht]
      exact .inl ⟨file, .inl hf, rfl⟩

/-- The tokens of an input are the paths of its files and options of the linker. -/
theorem mem_tokens_cases (h : a.contributionOf plan isRuntime input = .ok c)
    (hi : input ∈ a.inputsOf isRuntime) (ht : token ∈ c.tokens) :
    token ∈ a.inputFiles.map (·.execPath) ∨ IsInputOption token := by
  have hi := mem_inputs_iff.2 ⟨isRuntime, hi⟩
  obtain ⟨file, hf, ⟨-, -, rfl⟩ | ⟨-, tokens, static, rfl⟩⟩ := contributionOf_cases h
  · rw [List.mem_singleton.1 ht, dynamicToken]
    split
    · exact .inr (.library _)
    · exact .inl (List.mem_map_of_mem (mem_inputFiles_iff.2 ⟨input, hi, .inl hf⟩))
  · rcases mem_staticTokens_cases static ht with ⟨named, hn, rfl⟩ | option
    · exact .inl (List.mem_map_of_mem (mem_inputFiles_iff.2 ⟨input, hi, hn⟩))
    · exact .inr option

/-- An input that needs the root has the empty place. -/
theorem nil_mem_places_of_needsRoot (h : a.contributionOf plan isRuntime input = .ok c)
    (hi : input ∈ a.inputsOf isRuntime) (needsRoot : c.needsRoot = true) : [] ∈ a.places plan := by
  obtain ⟨file, hf, ⟨dynamic, -, rfl⟩ | ⟨-, tokens, -, rfl⟩⟩ := contributionOf_cases h
  · have library : file ∈ a.libraries isRuntime := mem_libraries_iff.2 ⟨dynamic, input, hi, hf⟩
    have covered : plan.covers isRuntime file.parent = true := needsRoot
    have empty : plan.place? isRuntime file.parent = some [] := by
      rw [RpathPlan.place?, if_pos covered]
    exact mem_places_iff.2 ⟨isRuntime, file, library, empty⟩
  · cases needsRoot

end Action
end LinkSynthesis

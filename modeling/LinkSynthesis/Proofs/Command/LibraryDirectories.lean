import LinkSynthesis.Proofs.Command.Arrangement
import LinkSynthesis.Proofs.FirstUse

/-!
# Library directories among the input options

The block of options that say where shared libraries are found. Every library asks for the options
of its directory (`RpathPlan.dirOptions`), and the block is what all of them ask for, each option
once, at its first use. So the block follows from the directories in their order, and a library in a
directory that was met before adds nothing to it (`libraryOptions_of_appendInputOptions`).
-/

namespace LinkSynthesis

/-! ### The options of a directory -/

namespace RpathPlan

variable {plan : RpathPlan} {dir : Path} {option : Option String}

/-- What the libraries in a directory ask for: the search path option of the directory, if it has
one, and the directory for the linker. -/
def dirOptions (plan : RpathPlan) (dir : Path) : List String :=
  (plan.libraryOption dir).toOption.join.toList ++ ["-L" ++ dir.toString]

theorem fragment_mem_dirOptions {fragment : String}
    (h : plan.libraryOption dir = .ok (some fragment)) : fragment ∈ plan.dirOptions dir := by
  simp [dirOptions, h, Except.toOption]

/-- Only the solib directory and the runtime directory need no option. -/
theorem eq_none_iff_of_libraryOption (h : plan.libraryOption dir = .ok option) :
    option = none ↔ dir = plan.solibDir ∨ some dir = plan.runtimeSolibDir := by
  unfold libraryOption at h
  split at h
  · next own =>
    cases h
    simp [own]
  · next own =>
    split at h
    · cases h
    · split at h
      · cases h
        simp [own]
      · cases h

end RpathPlan

namespace Action

variable {a : Action} {plan : RpathPlan} {input : LinkerInput} {file : Artifact} {c : Contribution}
  {isRuntime whole includeLinkopts : Bool} {linked runtime : List Contribution}
  {arguments result : List String}

/-- A library contributes the options of its directory. -/
theorem searchOptions_of_contributionOf (h : a.contributionOf plan isRuntime input = .ok c)
    (hf : input.artifact = some file) (dynamic : file.isDynamicLibrary = true) :
    (∃ option, plan.libraryOption file.parent = .ok option) ∧
      c.searchOptions = plan.dirOptions file.parent := by
  have accepted := (contributionOf_of_dynamic h hf dynamic).1
  rw [contributionOf_eq, hf, Artifact.require_some, except_bind_ok, if_pos dynamic,
    if_pos accepted] at h
  obtain ⟨option, ho, rfl⟩ := dynamicContribution_eq_ok h
  refine ⟨⟨option, ho⟩, ?_⟩
  rw [RpathPlan.dirOptions, ho]
  rfl

namespace Contributes

variable (h : a.Contributes plan linked runtime)

include h

/-- Every library of an action lies in an accepted directory and asks for the options of it. -/
theorem of_mem_libraries (library : file ∈ a.libraries isRuntime) :
    plan.accepts isRuntime file.parent = true ∧
      (∃ option, plan.libraryOption file.parent = .ok option) ∧
      (libraryContribution plan isRuntime file).searchOptions = plan.dirOptions file.parent := by
  obtain ⟨dynamic, input, hi, hf⟩ := mem_libraries_iff.1 library
  obtain ⟨c, -, contributed⟩ := h.exists_of_input hi
  obtain ⟨accepted, rfl⟩ := contributionOf_of_dynamic contributed hf dynamic
  exact ⟨accepted, searchOptions_of_contributionOf contributed hf dynamic⟩

/-- The block is what the directories of the libraries ask for, each option at its first use. -/
theorem libraryOptions_eq : a.libraryOptions plan =
    (a.sharedLibraries.flatMap fun file => plan.dirOptions file.parent).eraseDups := by
  have ofKind (isRuntime : Bool) :
      (a.libraries isRuntime).flatMap (fun file =>
        (libraryContribution plan isRuntime file).searchOptions) =
      (a.libraries isRuntime).flatMap fun file => plan.dirOptions file.parent :=
    List.flatMap_congr fun file library => (h.of_mem_libraries library).2.2
  rw [libraryOptions, askedOptions, sharedLibraries, List.flatMap_append, ← ofKind, ← ofKind]
  simp

theorem mem_libraryOptions_iff_dirOptions {token : String} : token ∈ a.libraryOptions plan ↔
    ∃ file ∈ a.sharedLibraries, token ∈ plan.dirOptions file.parent := by
  rw [h.libraryOptions_eq, List.mem_eraseDups, List.mem_flatMap]

end Contributes

/-! ### One more library -/

/-- The shared libraries among some inputs. -/
def sharedFiles (inputs : List LinkerInput) : List Artifact :=
  (inputs.filterMap (·.artifact)).filter (·.isDynamicLibrary)

theorem sharedFiles_append (inputs rest : List LinkerInput) :
    sharedFiles (inputs ++ rest) = sharedFiles inputs ++ sharedFiles rest := by
  simp [sharedFiles]

theorem sharedFiles_cons (hf : input.artifact = some file)
    (dynamic : file.isDynamicLibrary = true) (rest : List LinkerInput) :
    sharedFiles (input :: rest) = file :: sharedFiles rest := by
  simp [sharedFiles, hf, dynamic]

/-- The action with one more input, behind the first `n` of a kind. -/
def withInput (a : Action) (input : LinkerInput) (n : Nat) : (isRuntime : Bool) → Action
  | false => { a with linkerInputs := a.linkerInputs.take n ++ input :: a.linkerInputs.drop n }
  | true => { a with runtimeInputs := a.runtimeInputs.take n ++ input :: a.runtimeInputs.drop n }

/-- The shared libraries in front of such an input. -/
def librariesBefore (a : Action) (n : Nat) : (isRuntime : Bool) → List Artifact
  | false => sharedFiles (a.linkerInputs.take n)
  | true => sharedFiles a.linkerInputs ++ sharedFiles (a.runtimeInputs.take n)

theorem rpathPlan_withInput (a : Action) (input : LinkerInput) (n : Nat) (isRuntime : Bool) :
    (a.withInput input n isRuntime).rpathPlan = a.rpathPlan := by
  cases isRuntime <;> rfl

theorem contributionOf_withInput (a : Action) (added : LinkerInput) (n : Nat)
    (isRuntime kind : Bool) :
    (a.withInput added n isRuntime).contributionOf plan kind input =
      a.contributionOf plan kind input := by
  cases isRuntime <;> cases kind <;> rfl

/-- The inputs are those of the action and the new one. -/
theorem mem_inputsOf_withInput {other : LinkerInput} {n : Nat} {kind : Bool}
    (h : other ∈ (a.withInput input n isRuntime).inputsOf kind) :
    other ∈ a.inputsOf kind ∨ kind = isRuntime ∧ other = input := by
  have split {l : List LinkerInput} (h : other ∈ l.take n ++ input :: l.drop n) :
      other ∈ l ∨ other = input := by
    rw [List.mem_append, List.mem_cons] at h
    rcases h with front | rfl | back
    · exact .inl (List.mem_of_mem_take front)
    · exact .inr rfl
    · exact .inl (List.mem_of_mem_drop back)
  cases isRuntime <;> cases kind
  · simpa [inputsOf] using split h
  · exact .inl h
  · exact .inl h
  · simpa [inputsOf] using split h

/-- The new library stands behind those in front of it. -/
theorem exists_sharedLibraries_withInput (a : Action) (n : Nat) (isRuntime : Bool)
    (hf : input.artifact = some file) (dynamic : file.isDynamicLibrary = true) :
    ∃ after, a.sharedLibraries = a.librariesBefore n isRuntime ++ after ∧
      (a.withInput input n isRuntime).sharedLibraries =
        a.librariesBefore n isRuntime ++ file :: after := by
  have halves (inputs : List LinkerInput) :
      sharedFiles inputs = sharedFiles (inputs.take n) ++ sharedFiles (inputs.drop n) := by
    rw [← sharedFiles_append, List.take_append_drop]
  have more (inputs : List LinkerInput) :
      sharedFiles (inputs.take n ++ input :: inputs.drop n) =
        sharedFiles (inputs.take n) ++ file :: sharedFiles (inputs.drop n) := by
    rw [sharedFiles_append, sharedFiles_cons hf dynamic]
  have own : a.sharedLibraries = sharedFiles a.linkerInputs ++ sharedFiles a.runtimeInputs := rfl
  cases isRuntime with
  | false =>
    have added : (a.withInput input n false).sharedLibraries =
        sharedFiles (a.linkerInputs.take n ++ input :: a.linkerInputs.drop n) ++
          sharedFiles a.runtimeInputs := rfl
    refine ⟨sharedFiles (a.linkerInputs.drop n) ++ sharedFiles a.runtimeInputs, ?_, ?_⟩
    · rw [own, halves a.linkerInputs, List.append_assoc]
      rfl
    · rw [added, more, List.append_assoc]
      rfl
  | true =>
    have added : (a.withInput input n true).sharedLibraries = sharedFiles a.linkerInputs ++
        sharedFiles (a.runtimeInputs.take n ++ input :: a.runtimeInputs.drop n) := rfl
    refine ⟨sharedFiles (a.runtimeInputs.drop n), ?_, ?_⟩
    · rw [own, halves a.runtimeInputs, ← List.append_assoc]
      rfl
    · rw [added, more, ← List.append_assoc]
      rfl

/-- Where a library of the link may lie, one of the runtime may lie too. -/
theorem accepts_of_mem_librariesBefore (h : a.Contributes plan linked runtime) {n : Nat}
    (before : file ∈ a.librariesBefore n isRuntime) :
    file ∈ a.sharedLibraries ∧ plan.accepts isRuntime file.parent = true := by
  have front {inputs : List LinkerInput} (hfile : file ∈ sharedFiles (inputs.take n)) :
      file ∈ sharedFiles inputs :=
    (((List.take_sublist n inputs).filterMap _).filter _).subset hfile
  have ofKind {kind : Bool} (library : file ∈ a.libraries kind) :
      file ∈ a.sharedLibraries ∧ plan.accepts kind file.parent = true :=
    ⟨mem_sharedLibraries_iff.2 ⟨kind, library⟩, (h.of_mem_libraries library).1⟩
  cases isRuntime with
  | false => exact ofKind (front before)
  | true =>
    rcases List.mem_append.1 before with link | own
    · have library : file ∈ a.libraries false := link
      refine (ofKind library).imp_right fun accepted => ?_
      simp only [RpathPlan.accepts, Bool.false_and, Bool.or_false] at accepted
      simp [RpathPlan.accepts, accepted]
    · exact ofKind (front own)

/-- With one more library in a directory that was met before, all inputs still contribute. -/
theorem Contributes.exists_withInput (h : a.Contributes plan linked runtime) {n : Nat}
    (hf : input.artifact = some file) (dynamic : file.isDynamicLibrary = true)
    {other : Artifact} (before : other ∈ a.librariesBefore n isRuntime)
    (same : other.parent = file.parent) :
    ∃ linked runtime, (a.withInput input n isRuntime).Contributes plan linked runtime := by
  have contributes (kind : Bool) :
      ∃ contributions, ((a.withInput input n isRuntime).inputsOf kind).mapM
        ((a.withInput input n isRuntime).contributionOf plan kind) = .ok contributions := by
    refine exists_mapM_eq_ok fun each he => ?_
    rw [contributionOf_withInput]
    rcases mem_inputsOf_withInput he with own | ⟨rfl, rfl⟩
    · obtain ⟨c, -, contributed⟩ := h.exists_of_input own
      exact ⟨c, contributed⟩
    · obtain ⟨library, accepted⟩ := accepts_of_mem_librariesBefore h before
      obtain ⟨kind, library⟩ := mem_sharedLibraries_iff.1 library
      obtain ⟨-, ⟨option, ho⟩, -⟩ := h.of_mem_libraries library
      rw [same] at accepted ho
      rw [contributionOf_eq, hf, Artifact.require_some, except_bind_ok, if_pos dynamic,
        if_pos accepted, dynamicContribution, ho]
      exact ⟨_, rfl⟩
  obtain ⟨linked, hl⟩ := contributes false
  obtain ⟨runtime, hr⟩ := contributes true
  exact ⟨linked, runtime, hl, hr⟩

/-- It asks for nothing new. -/
theorem Contributes.libraryOptions_withInput (h : a.Contributes plan linked runtime) {n : Nat}
    {linked' runtime' : List Contribution}
    (h' : (a.withInput input n isRuntime).Contributes plan linked' runtime')
    (hf : input.artifact = some file) (dynamic : file.isDynamicLibrary = true)
    {other : Artifact} (before : other ∈ a.librariesBefore n isRuntime)
    (same : other.parent = file.parent) :
    (a.withInput input n isRuntime).libraryOptions plan = a.libraryOptions plan := by
  obtain ⟨after, own, more⟩ := a.exists_sharedLibraries_withInput n isRuntime hf dynamic
  have asked : plan.dirOptions file.parent ⊆
      (a.librariesBefore n isRuntime).flatMap fun file => plan.dirOptions file.parent :=
    fun token ht => List.mem_flatMap.2 ⟨other, before, same ▸ ht⟩
  rw [h.libraryOptions_eq, h'.libraryOptions_eq, own, more, List.flatMap_append,
    List.flatMap_append, List.flatMap_cons, eraseDups_append_append asked]

/-- Apart from the block, the options show the new input by its contribution only. -/
theorem Contributes.appendInputOptions_withInput {n : Nat}
    (h : (a.withInput input n isRuntime).Contributes plan linked runtime)
    (hp : a.rpathPlan = .ok plan) :
    (a.withInput input n isRuntime).appendInputOptions arguments whole includeLinkopts =
      .ok (arguments ++ (a.frontOptions plan linked runtime whole ++
        (a.withInput input n isRuntime).libraryOptions plan ++
        (a.markedTokens linked runtime whole ++ if includeLinkopts then a.linkopts else []))) := by
  have hp' := (a.rpathPlan_withInput input n isRuntime).trans hp
  rw [appendInputOptions, inputOptions, hp', except_bind_ok, h.linked, except_bind_ok, h.runtime,
    except_bind_ok, h.arrange_eq]
  cases isRuntime <;> rfl

/-! ### The block -/

/-- **Library options are complete, minimal and in the order of first use.** They stand in one block
behind the options in front. No option is in it twice. It holds the directory of every library for
the linker, and the search path option of every directory but the solib directory and the runtime
directory; nothing else is in it. It is what the libraries ask for one by one, each option at its
first use. One more library in a directory that was met before leaves it as it is, and libraries
whose paths are spelled differently ask for the same. -/
theorem libraryOptions_of_appendInputOptions
    (success : a.appendInputOptions arguments whole includeLinkopts = .ok result) :
    ∃ plan linked runtime, a.rpathPlan = .ok plan ∧ a.Contributes plan linked runtime ∧
      result = arguments ++ (a.frontOptions plan linked runtime whole ++ a.libraryOptions plan ++
        (a.markedTokens linked runtime whole ++ if includeLinkopts then a.linkopts else [])) ∧
      (a.libraryOptions plan).Nodup ∧
      (∀ file ∈ a.sharedLibraries, ∃ option, plan.libraryOption file.parent = .ok option ∧
        (option = none ↔
          file.parent = plan.solibDir ∨ some file.parent = plan.runtimeSolibDir) ∧
        (∀ fragment, option = some fragment → fragment ∈ a.libraryOptions plan) ∧
        "-L" ++ file.parent.toString ∈ a.libraryOptions plan) ∧
      (∀ token ∈ a.libraryOptions plan, ∃ file ∈ a.sharedLibraries,
        token ∈ plan.dirOptions file.parent) ∧
      a.libraryOptions plan =
        (a.sharedLibraries.flatMap fun file => plan.dirOptions file.parent).eraseDups ∧
      (∀ input file n isRuntime, input.artifact = some file → file.isDynamicLibrary = true →
        (∃ other ∈ a.librariesBefore n isRuntime, other.parent = file.parent) →
        ∃ linked' runtime', (a.withInput input n isRuntime).Contributes plan linked' runtime' ∧
          (a.withInput input n isRuntime).appendInputOptions arguments whole includeLinkopts =
            .ok (arguments ++ (a.frontOptions plan linked' runtime' whole ++
              a.libraryOptions plan ++ (a.markedTokens linked' runtime' whole ++
                if includeLinkopts then a.linkopts else [])))) ∧
      ∀ file ∈ a.sharedLibraries, ∀ other ∈ a.sharedLibraries,
        Path.Respells file.execPath other.execPath →
        plan.dirOptions other.parent = plan.dirOptions file.parent := by
  obtain ⟨plan, linked, runtime, hp, contributes, rfl⟩ := appendInputOptions_eq_ok success
  refine ⟨plan, linked, runtime, hp, contributes, by rw [contributes.arrange_eq], ?_, ?_, ?_,
    contributes.libraryOptions_eq, ?_, ?_⟩
  · rw [contributes.libraryOptions_eq]
    exact nodup_eraseDups _
  · intro file hfile
    obtain ⟨isRuntime, library⟩ := mem_sharedLibraries_iff.1 hfile
    obtain ⟨-, ⟨option, ho⟩, -⟩ := contributes.of_mem_libraries library
    refine ⟨option, ho, RpathPlan.eq_none_iff_of_libraryOption ho, ?_,
      linkerOption_mem_libraryOptions hfile⟩
    rintro fragment rfl
    exact contributes.mem_libraryOptions_iff_dirOptions.2
      ⟨file, hfile, plan.fragment_mem_dirOptions ho⟩
  · intro token ht
    exact contributes.mem_libraryOptions_iff_dirOptions.1 ht
  · rintro input file n isRuntime hf dynamic ⟨other, before, same⟩
    obtain ⟨linked', runtime', more⟩ := contributes.exists_withInput hf dynamic before same
    refine ⟨linked', runtime', more, ?_⟩
    rw [more.appendInputOptions_withInput hp,
      contributes.libraryOptions_withInput more hf dynamic before same]
  · intro file _ other _ respelled
    rw [Artifact.parent, Artifact.parent, Artifact.path, Artifact.path, respelled.parse_eq]

/-- An executable. -/
def galleryOutput : Artifact :=
  ⟨"buck-out/bin/gal/gallery", "buck-out/bin", by decide, by decide +kernel⟩

/-- A shared library below the solib directory. -/
def pngLibrary : Artifact := ⟨"buck-out/bin/_solib_k8/img/libpng.so", "", by decide, .inl rfl⟩

/-- The same library, its path spelled differently. -/
def pngRespelled : Artifact :=
  ⟨"buck-out/bin/./_solib_k8//img/libpng.so", "", by decide, .inl rfl⟩

/-- Another library in the directory. -/
def jpegLibrary : Artifact := ⟨"buck-out/bin/_solib_k8/img/libjpeg.so.9", "", by decide, .inl rfl⟩

/-- A library in the solib directory itself. -/
def zlibLibrary : Artifact := ⟨"buck-out/bin/_solib_k8/libz.so", "", by decide, .inl rfl⟩

/-- The link of the executable; the library is an input of the runtime too. -/
def galleryAction : Action where
  toolchain := {}
  ownerLabel := "//gal:gallery"
  target := .executable
  staticness := .dynamic
  output := some galleryOutput
  linkerInputs := [.plain (some pngLibrary), .plain (some zlibLibrary)]
  runtimeInputs := [.plain (some pngRespelled)]

theorem libraryOptions_galleryAction : ∃ plan, galleryAction.rpathPlan = .ok plan ∧
    galleryAction.libraryOptions plan = ["-Wl,-rpath,$ORIGIN/../_solib_k8/img",
      "-Lbuck-out/bin/_solib_k8/img", "-Lbuck-out/bin/_solib_k8"] ∧
    plan.dirOptions pngRespelled.parent = plan.dirOptions pngLibrary.parent ∧
    ∃ linked runtime,
      (galleryAction.withInput (.plain (some jpegLibrary)) 0 true).appendInputOptions ["gcc"]
        false true = .ok (["gcc"] ++ (galleryAction.frontOptions plan linked runtime false ++
          galleryAction.libraryOptions plan ++
          (galleryAction.markedTokens linked runtime false ++ []))) := by
  have success : galleryAction.appendInputOptions ["gcc"] false true = .ok ["gcc",
      "-Wl,-rpath,$ORIGIN/../_solib_k8/", "-Wl,-rpath,$ORIGIN/../_solib_k8/img",
      "-Lbuck-out/bin/_solib_k8/img", "-Lbuck-out/bin/_solib_k8", "-lpng", "-lz", "-lpng"] := by
    decide +kernel
  obtain ⟨plan, linked, runtime, hp, -, -, -, -, -, block, more, respelled⟩ :=
    libraryOptions_of_appendInputOptions success
  have libraries : galleryAction.sharedLibraries = [pngLibrary, zlibLibrary, pngRespelled] := by
    decide +kernel
  refine ⟨plan, hp, ?_, ?_, ?_⟩
  · have plan_eq : galleryAction.rpathPlan = .ok {
        solibDir := galleryAction.solibDir
        runtimeSolibDir := none
        root := "-Wl,-rpath,$ORIGIN/../_solib_k8/" } := by
      decide +kernel
    cases hp.symm.trans plan_eq
    rw [block, libraries]
    decide +kernel
  · rw [libraries] at respelled
    refine respelled _ (.head _) _ (by simp) ⟨?_, ?_⟩ <;> decide +kernel
  · obtain ⟨linked', runtime', -, options⟩ := more (.plain (some jpegLibrary)) jpegLibrary 0 true
      rfl (by decide) ⟨pngLibrary, by decide +kernel, by decide +kernel⟩
    exact ⟨linked', runtime', options⟩

end Action
end LinkSynthesis

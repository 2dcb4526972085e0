import LinkSynthesis.Command.LibrarySearch
import LinkSynthesis.Proofs.Artifact.FileType
import LinkSynthesis.Proofs.Command.Arrangement
import LinkSynthesis.Proofs.FirstUse

/-!
# Shared libraries that the linker finds

What the linker takes for the name of a library of the link. It searches the directories of the
libraries in the order of their first use, and nothing but the file name tells one library from
another: of libraries with one file name, all names stand for the one whose directory comes first.
-/

namespace LinkSynthesis
open LibrarySearch

/-! ### Files and their names -/

/-- A file with a name lies by that name in its directory. -/
theorem Artifact.exists_path_eq_descend {file : Artifact} (h : file.filename ≠ "") :
    ∃ s : Path.Segment, s.text = file.filename ∧ file.path = file.parent.descend [s] := by
  cases hs : file.path.segments.getLast? with
  | none =>
    refine absurd ?_ h
    simp [filename, Path.name, hs]
  | some s =>
    refine ⟨s, by simp [filename, Path.name, hs], ?_⟩
    rw [parent, Path.descend, Path.parent_segments, List.dropLast_append_getLast? s hs]
    rfl

theorem Artifact.filename_ne_empty {file : Artifact} (h : file.isDynamicLibrary = true) :
    file.filename ≠ "" := by
  intro he
  rw [isDynamicLibrary, he] at h
  revert h
  decide

namespace Action

variable {a : Action} {plan : RpathPlan} {file : Artifact} {name : String} {isRuntime : Bool}

/-- The token of a plain library is its name. -/
theorem dynamicToken_eq (hf : file.filename = "lib" ++ name ++ ".so")
    (line : '\n' ∉ name.toList) : dynamicToken file = "-l" ++ name := by
  have text : file.filename.toList = "lib".toList ++ name.toList ++ ".so".toList := by simp [hf]
  have unbroken : Text.Pattern.lineText file.filename.toList = file.filename.toList := by
    have last : file.filename.toList.getLast? = some 'o' := by
      rw [text, List.getLast?_append]
      rfl
    simp [Text.Pattern.lineText, last]
  have shared : FileType.isSharedLibrary file.filename = true := by
    rw [FileType.isSharedLibrary_iff, unbroken, text]
    exact ⟨by simp [line], List.suffix_append _ _⟩
  have stripped : libraryName file.filename = name := by simp [libraryName, text]
  rw [dynamicToken, if_pos shared, stripped]

/-- The path is that of a shared library of the action. -/
def isLibraryPath (a : Action) (path : Path) : Bool := a.sharedLibraries.any (·.path = path)

/-- A library is known by its directory and its file name. -/
theorem exists_segment_of_library (hfile : file ∈ a.sharedLibraries) :
    ∃ s : Path.Segment, s.text = file.filename ∧ file.path = file.parent.descend [s] := by
  obtain ⟨isRuntime, library⟩ := mem_sharedLibraries_iff.1 hfile
  exact Artifact.exists_path_eq_descend (Artifact.filename_ne_empty (mem_libraries_iff.1 library).1)

theorem isLibraryPath_descend_iff {dir : Path} {s : Path.Segment} :
    a.isLibraryPath (dir.descend [s]) = true ↔
      ∃ file ∈ a.sharedLibraries, file.filename = s.text ∧ file.parent = dir := by
  simp only [isLibraryPath, List.any_eq_true, decide_eq_true_eq]
  refine exists_congr fun file => and_congr_right fun hfile => ?_
  obtain ⟨t, ht, hpath⟩ := exists_segment_of_library hfile
  rw [hpath, Path.descend_singleton_inj, ← ht, and_comm]
  exact and_congr_left' ⟨congrArg _, Path.Segment.text_injective⟩

/-! ### The search -/

/-- Of the options of a library the linker reads the directory and skips the run path. -/
theorem linkerDirs_searchOptions (h : a.rpathPlan = .ok plan) (file : Artifact) :
    linkerDirs (libraryContribution plan isRuntime file).searchOptions = [file.parent] := by
  obtain ⟨entries, root⟩ := exists_eq_rpath h (.inl rfl)
  have skipped (place : List Path.Segment) : behind? "-L" (plan.searchOption place) = none := by
    simp [behind?, RpathPlan.searchOption, root]
  have own : linkerDirs ["-L" ++ file.parent.toString] = [file.parent] := by
    simp [linkerDirs, behind?_append, Path.parse_toString]
  unfold linkerDirs at own ⊢
  rw [libraryContribution, List.filterMap_append, own]
  split
  · rfl
  · cases plan.place? isRuntime file.parent <;> simp [skipped]

theorem linkerDirs_askedOptions (h : a.rpathPlan = .ok plan) :
    linkerDirs (a.askedOptions plan) = a.sharedLibraries.map (·.parent) := by
  have dirs (isRuntime : Bool) :
      linkerDirs ((a.libraries isRuntime).flatMap fun file =>
        (libraryContribution plan isRuntime file).searchOptions) =
      (a.libraries isRuntime).map (·.parent) := by
    rw [List.map_eq_flatMap, linkerDirs, List.filterMap_flatMap]
    exact List.flatMap_congr fun file _ => linkerDirs_searchOptions h file
  rw [sharedLibraries, List.map_append, ← dirs, ← dirs]
  simp [askedOptions, linkerDirs]

/-- The search goes through the directories of the libraries in the order of the inputs; that each
is searched once makes no difference. -/
theorem findLibrary?_libraryOptions (h : a.rpathPlan = .ok plan) {s : Path.Segment}
    (hs : s.text = "lib" ++ name ++ ".so") :
    findLibrary? a.isLibraryPath (a.libraryOptions plan) name =
      ((a.sharedLibraries.map (·.parent)).find? fun dir =>
        a.isLibraryPath (dir.descend [s])).map (·.descend [s]) := by
  have once (p : Path → Bool) : (linkerDirs (a.libraryOptions plan)).find? p =
      (linkerDirs (a.askedOptions plan)).find? p := by
    unfold linkerDirs libraryOptions
    rw [List.find?_filterMap, find?_eraseDups, ← List.find?_filterMap]
  unfold findLibrary?
  dsimp only
  rw [← hs, List.find?_map, once, linkerDirs_askedOptions h]
  simp only [Function.comp_def, Path.join_parse_text]

/-- A library of the right name is found. -/
theorem exists_findLibrary?_eq (h : a.rpathPlan = .ok plan) (hfile : file ∈ a.sharedLibraries)
    (hf : file.filename = "lib" ++ name ++ ".so") :
    ∃ found ∈ a.sharedLibraries, found.filename = file.filename ∧
      findLibrary? a.isLibraryPath (a.libraryOptions plan) name = some found.path := by
  obtain ⟨s, hs, -⟩ := exists_segment_of_library hfile
  have hit : ((a.sharedLibraries.map (·.parent)).find? fun dir =>
      a.isLibraryPath (dir.descend [s])).isSome :=
    List.find?_isSome.2 ⟨file.parent, List.mem_map_of_mem hfile,
      isLibraryPath_descend_iff.2 ⟨file, hfile, hs.symm, rfl⟩⟩
  obtain ⟨first, hfirst⟩ := Option.isSome_iff_exists.1 hit
  have holds := List.find?_some hfirst
  obtain ⟨found, hfound, same, rfl⟩ := isLibraryPath_descend_iff.1 holds
  obtain ⟨t, ht, hpath⟩ := exists_segment_of_library hfound
  refine ⟨found, hfound, same.trans hs, ?_⟩
  rw [findLibrary?_libraryOptions h (hs.trans hf), hfirst, Option.map_some, hpath,
    Path.Segment.text_injective (ht.trans same)]

/-- A library itself is found if its directory comes first of those with a library of its name. -/
theorem findLibrary?_eq_path_iff (h : a.rpathPlan = .ok plan) (hfile : file ∈ a.sharedLibraries)
    (hf : file.filename = "lib" ++ name ++ ".so") :
    findLibrary? a.isLibraryPath (a.libraryOptions plan) name = some file.path ↔
      ∀ other ∈ a.sharedLibraries, other.filename = file.filename →
        (a.sharedLibraries.map (·.parent)).idxOf file.parent ≤
          (a.sharedLibraries.map (·.parent)).idxOf other.parent := by
  obtain ⟨s, hs, hpath⟩ := exists_segment_of_library hfile
  have holds : a.isLibraryPath (file.parent.descend [s]) = true :=
    isLibraryPath_descend_iff.2 ⟨file, hfile, hs.symm, rfl⟩
  have injective : Function.Injective fun dir : Path => dir.descend [s] :=
    fun _ _ he => (Path.descend_singleton_inj.1 he).1
  have whole : some (file.parent.descend [s]) = (some file.parent).map (·.descend [s]) := rfl
  rw [findLibrary?_libraryOptions h (hs.trans hf), hpath, whole,
    (Option.map_injective injective).eq_iff,
    find?_eq_some_iff_idxOf_le (List.mem_map_of_mem hfile) holds]
  simp only [isLibraryPath_descend_iff, ← hs]
  constructor
  · intro first other hother same
    exact first _ (List.mem_map_of_mem hother) ⟨other, hother, same, rfl⟩
  · rintro first _ - ⟨other, hother, same, rfl⟩
    exact first other hother same

variable {arguments result : List String} {whole includeLinkopts : Bool}

/-- **What the name of a library finds.** A library `libname.so` is passed by its name, and the
directories of the added options, searched in order, hold a file for it: the library of that file
name whose directory comes first. So the library itself is found exactly when no library of the same
file name lies in a directory that comes before its own, and the names of two libraries find one
file exactly when their file names are equal. -/
theorem findLibrary?_of_library
    (success : a.appendInputOptions arguments whole includeLinkopts = .ok result) :
    ∃ plan front rest, a.rpathPlan = .ok plan ∧
      result = arguments ++ (front ++ a.libraryOptions plan ++ rest) ∧
      ∀ file ∈ a.sharedLibraries, ∀ name, file.filename = "lib" ++ name ++ ".so" →
        '\n' ∉ name.toList →
        "-l" ++ name ∈ rest ∧
        (∃ found ∈ a.sharedLibraries, found.filename = file.filename ∧
          findLibrary? a.isLibraryPath (a.libraryOptions plan) name = some found.path) ∧
        (findLibrary? a.isLibraryPath (a.libraryOptions plan) name = some file.path ↔
          ∀ other ∈ a.sharedLibraries, other.filename = file.filename →
            (a.sharedLibraries.map (·.parent)).idxOf file.parent ≤
              (a.sharedLibraries.map (·.parent)).idxOf other.parent) ∧
        ∀ other ∈ a.sharedLibraries, ∀ otherName, other.filename = "lib" ++ otherName ++ ".so" →
          (findLibrary? a.isLibraryPath (a.libraryOptions plan) otherName =
              findLibrary? a.isLibraryPath (a.libraryOptions plan) name ↔
            other.filename = file.filename) := by
  obtain ⟨plan, linked, runtime, hp, contributes, rfl⟩ := appendInputOptions_eq_ok success
  refine ⟨plan, _, _, hp, by rw [contributes.arrange_eq], ?_⟩
  intro file hfile name hf line
  refine ⟨List.mem_append_left _ ?_, exists_findLibrary?_eq hp hfile hf,
    findLibrary?_eq_path_iff hp hfile hf, ?_⟩
  · obtain ⟨isRuntime, library⟩ := mem_sharedLibraries_iff.1 hfile
    obtain ⟨dynamic, input, hi, hinput⟩ := mem_libraries_iff.1 library
    obtain ⟨c, hc, contributed⟩ := contributes.exists_of_input hi
    obtain ⟨-, rfl⟩ := contributionOf_of_dynamic contributed hinput dynamic
    rw [← dynamicToken_eq hf line]
    exact mem_markedTokens (List.mem_flatMap.2 ⟨_, hc, .head _⟩)
  · intro other hother otherName ho
    constructor
    · intro one
      obtain ⟨found, hfound, same, hfind⟩ := exists_findLibrary?_eq hp hfile hf
      obtain ⟨found', hfound', same', hfind'⟩ := exists_findLibrary?_eq hp hother ho
      have path : found'.path = found.path := by
        rw [one, hfind] at hfind'
        exact (Option.some.inj hfind').symm
      rw [← same', ← same, Artifact.filename, Artifact.filename, path]
    · intro same
      have names : otherName = name := by
        rw [ho, hf] at same
        simpa using same
      rw [names]

/-- An executable one directory below the output tree. -/
def appOutput : Artifact := ⟨"buck-out/bin/pkg/app", "buck-out/bin", by decide, by decide +kernel⟩

/-- A library in a directory below the solib directory. -/
def firstTwin : Artifact := ⟨"buck-out/bin/_solib_k8/a/libx.so", "", by decide, .inl rfl⟩

/-- A library of the same file name in another directory. -/
def secondTwin : Artifact := ⟨"buck-out/bin/_solib_k8/b/libx.so", "", by decide, .inl rfl⟩

/-- The link of the executable with both libraries. -/
def twinAction : Action where
  toolchain := {}
  ownerLabel := "//pkg:app"
  target := .executable
  staticness := .dynamic
  output := some appOutput
  linkerInputs := [.plain (some firstTwin), .plain (some secondTwin)]

/-- The search paths of the executable. -/
def appPlan : RpathPlan where
  solibDir := Path.parse "buck-out/bin/_solib_k8"
  runtimeSolibDir := none
  root := "-Wl,-rpath,$ORIGIN/../_solib_k8/"

/-- The options of the link. -/
theorem appendInputOptions_twinAction : twinAction.appendInputOptions ["gcc"] false true = .ok [
    "gcc", "-Wl,-rpath,$ORIGIN/../_solib_k8/a", "-Lbuck-out/bin/_solib_k8/a",
    "-Wl,-rpath,$ORIGIN/../_solib_k8/b", "-Lbuck-out/bin/_solib_k8/b", "-lx", "-lx"] := by
  decide +kernel

theorem rpathPlan_twinAction : twinAction.rpathPlan = .ok appPlan := by decide +kernel

theorem sharedLibraries_twinAction : twinAction.sharedLibraries = [firstTwin, secondTwin] := by
  decide +kernel

theorem findLibrary?_firstTwin :
    findLibrary? twinAction.isLibraryPath (twinAction.libraryOptions appPlan) "x" =
      some firstTwin.path := by
  obtain ⟨plan, front, rest, hp, -, names⟩ :=
    findLibrary?_of_library appendInputOptions_twinAction
  have same : appPlan = plan := Except.ok.inj (rpathPlan_twinAction.symm.trans hp)
  subst same
  have library : firstTwin ∈ twinAction.sharedLibraries := by simp [sharedLibraries_twinAction]
  obtain ⟨-, -, found, -⟩ := names firstTwin library "x" rfl (by decide)
  refine found.2 ?_
  rw [sharedLibraries_twinAction]
  decide +kernel

/-- The other library of the same link is passed by the same name, which does not find it. -/
theorem findLibrary?_secondTwin_ne :
    (∃ result, twinAction.appendInputOptions ["gcc"] false true = .ok result) ∧
      twinAction.rpathPlan = .ok appPlan ∧
      secondTwin ∈ twinAction.sharedLibraries ∧ secondTwin.filename = "lib" ++ "x" ++ ".so" ∧
      linkerDirs (twinAction.libraryOptions appPlan) = [firstTwin.parent, secondTwin.parent] ∧
      findLibrary? twinAction.isLibraryPath (twinAction.libraryOptions appPlan) "x" ≠
        some secondTwin.path := by
  have library : secondTwin ∈ twinAction.sharedLibraries := by simp [sharedLibraries_twinAction]
  refine ⟨⟨_, appendInputOptions_twinAction⟩, rpathPlan_twinAction, library, rfl, ?_, ?_⟩
  · decide +kernel
  · decide +kernel

end Action
end LinkSynthesis

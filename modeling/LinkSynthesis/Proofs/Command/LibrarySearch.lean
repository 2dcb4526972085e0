import LinkSynthesis.Command.LibrarySearch
import LinkSynthesis.Proofs.Command.Arrangement

/-!
# Shared libraries that the loader finds

What the loader makes of the search path options of a link. Without native dependencies every option
denotes the directory of its libraries, so each library is found. With native dependencies the root
is a run path of two entries, and the place of a library goes behind the second: a library is found
if it lies in the solib directory itself, or where some place ends below the directory of the
output.
-/

namespace LinkSynthesis
open LibrarySearch

/-! ### Entries of run paths -/

namespace LibrarySearch

/-- The name of the origin stands for the directory of the output. -/
theorem entryDir_origin (a : Action) (dir : Path) (rest : String) :
    entryDir dir (a.origin ++ rest) = dir.resolveBelow rest := by
  cases h : a.useExecOrigin with
  | true =>
    have other : behind? "$ORIGIN/" ("$EXEC_ORIGIN/" ++ rest) = none := by simp [behind?]
    simp [Action.origin, h, entryDir, other, behind?_append]
  | false => simp [Action.origin, h, entryDir, behind?_append]

/-- A run path without a colon has one entry. -/
theorem loaderDirs_entry {entry : String} (h : ':' ∉ entry.toList) (dir : Path) :
    loaderDirs dir ("-Wl,-rpath," ++ entry) = [entryDir dir entry] := by
  simp [loaderDirs, behind?_append, List.splitOn_eq_singleton h]

/-- A colon divides a run path in two. -/
theorem loaderDirs_entries {first second : String} (hf : ':' ∉ first.toList)
    (hs : ':' ∉ second.toList) (dir : Path) :
    loaderDirs dir ("-Wl,-rpath," ++ (first ++ ":" ++ second)) =
      [entryDir dir first, entryDir dir second] := by
  have colon : (first ++ ":" ++ second).toList = first.toList ++ ':' :: second.toList := by simp
  simp only [loaderDirs, behind?_append, colon, List.splitOn_append_cons_self,
    List.splitOn_eq_singleton hf, List.splitOn_eq_singleton hs, List.singleton_append,
    List.map_cons, List.map_nil, String.ofList_toList]

/-- The arguments that the arrangement writes beside run paths are skipped. -/
theorem loaderDirs_of_isLinkerOption {a : Action} {token : String}
    (h : Action.IsLinkerOption a.wholeArchiveMarkers token) (dir : Path) :
    loaderDirs dir token = [] := by
  cases h with
  | opening => unfold Action.wholeArchiveMarkers; split <;> simp [loaderDirs, behind?]
  | closing => unfold Action.wholeArchiveMarkers; split <;> simp [loaderDirs, behind?]
  | input h =>
    cases h with
    | startLib | endLib => simp [loaderDirs, behind?]
    | directory | library => simp [loaderDirs, behind?]
    | fakeObject => simp [loaderDirs, behind?, fakeObjectMark]

end LibrarySearch

namespace Action

variable {a : Action} {output : Artifact} {plan : RpathPlan} {place : List Path.Segment}

/-! ### What an option denotes -/

/-- The run path entry that leads from an output of some depth to a place below the solib
directory. -/
def solibEntry (a : Action) (depth : Nat) (place : List Path.Segment) : String :=
  a.origin ++ (stepsUp depth ++ a.toolchain.solibDirectory ++ "/" ++
    "/".intercalate (place.map Path.Segment.text))

theorem IsLaidOut.colon_notMem_solibEntry (h : a.IsLaidOut output) (depth : Nat)
    (down : Path.IsWayDown place) : ':' ∉ (a.solibEntry depth place).toList := by
  have plain := h.solib_plain.1
  rw [solibEntry]
  simp only [String.toList_append, List.mem_append, not_or]
  exact ⟨a.colon_notMem_origin, ⟨⟨colon_notMem_stepsUp depth, plain⟩, by decide⟩, down.2⟩

theorem IsLaidOut.entryDir_solibEntry (h : a.IsLaidOut output) {depth : Nat}
    (hd : a.outputDepth = .ok depth) (down : Path.IsWayDown place) :
    entryDir output.parent (a.solibEntry depth place) = a.solibDir.descend place := by
  rw [solibEntry, entryDir_origin, h.resolveBelow_solib hd down]

/-- Without native dependencies an option has the entry of its place. -/
theorem searchOption_eq (place : List Path.Segment) (hn : a.nativeDeps = false)
    (hp : a.rpathPlan = .ok plan) :
    ∃ depth, a.outputDepth = .ok depth ∧
      plan.searchOption place = "-Wl,-rpath," ++ a.solibEntry depth place := by
  obtain ⟨depth, hd, root⟩ := rpathPlan_root hp (by simp [isSharedNativeLibrary, hn])
  refine ⟨depth, hd, ?_⟩
  rw [RpathPlan.searchOption, root, hn, solibEntry]
  simp [String.append_assoc]

/-- With native dependencies the text of the place stands behind the second entry of the root. -/
theorem searchOption_eq_of_native (place : List Path.Segment) (hn : a.nativeDeps = true)
    (hs : a.toolchain.shareNativeDeps = false) (hp : a.rpathPlan = .ok plan) :
    ∃ depth, a.outputDepth = .ok depth ∧
      plan.searchOption place = "-Wl,-rpath," ++ (a.solibEntry depth [] ++ ":" ++
        (a.origin ++ "/".intercalate (place.map Path.Segment.text))) := by
  obtain ⟨depth, hd, root⟩ := rpathPlan_root hp (by simp [isSharedNativeLibrary, hs])
  refine ⟨depth, hd, ?_⟩
  rw [RpathPlan.searchOption, root, hn, solibEntry, List.map_nil, String.intercalate_nil]
  simp only [if_pos, String.append_assoc, String.append_empty]

/-- Without native dependencies an option denotes its place below the solib directory. -/
theorem IsLaidOut.loaderDirs_searchOption (h : a.IsLaidOut output) (hn : a.nativeDeps = false)
    (hp : a.rpathPlan = .ok plan) (down : Path.IsWayDown place) :
    loaderDirs output.parent (plan.searchOption place) = [a.solibDir.descend place] := by
  obtain ⟨depth, hd, text⟩ := searchOption_eq place hn hp
  rw [text, loaderDirs_entry (h.colon_notMem_solibEntry depth down), h.entryDir_solibEntry hd down]

/-- A way down from the directory of the output needs no resolving. -/
theorem IsLaidOut.resolveBelow_parent (h : a.IsLaidOut output) (down : Path.IsWayDown place) :
    output.parent.resolveBelow ("/".intercalate (place.map Path.Segment.text)) =
      output.parent.descend place := by
  have parent : .up ∉ output.parent.segments :=
    fun hu => h.output_plain.2 (List.dropLast_subset _ hu)
  have plain : .up ∉ output.parent.segments ++ place := by simp [parent, down.1]
  rw [Path.resolveBelow, Path.parse_segments_intercalate]
  exact Path.resolve_eq_self plain

/-- With native dependencies the first entry denotes the solib directory whatever the place, and
the place is looked for below the directory of the output. -/
theorem IsLaidOut.loaderDirs_searchOption_of_native (h : a.IsLaidOut output)
    (hn : a.nativeDeps = true) (hs : a.toolchain.shareNativeDeps = false)
    (hp : a.rpathPlan = .ok plan) (down : Path.IsWayDown place) :
    loaderDirs output.parent (plan.searchOption place) =
      [a.solibDir, output.parent.descend place] := by
  obtain ⟨depth, hd, text⟩ := searchOption_eq_of_native place hn hs hp
  have first := h.colon_notMem_solibEntry depth Path.isWayDown_nil
  have second : ':' ∉ (a.origin ++ "/".intercalate (place.map Path.Segment.text)).toList := by
    simp only [String.toList_append, List.mem_append, not_or]
    exact ⟨a.colon_notMem_origin, down.2⟩
  rw [text, loaderDirs_entries first second, h.entryDir_solibEntry hd Path.isWayDown_nil,
    entryDir_origin, h.resolveBelow_parent down, Path.descend_nil]

/-! ### What a link searches -/

variable {arguments result : List String} {whole includeLinkopts : Bool}

variable {linked runtime : List Contribution} {input : LinkerInput} {file : Artifact}

/-- The option of the directory of a library under the solib directory is among the options. -/
theorem Contributes.exists_place (h : a.Contributes plan linked runtime)
    (hp : a.rpathPlan = .ok plan) (hi : input ∈ a.inputs) (hf : input.artifact = some file)
    (dynamic : file.isDynamicLibrary = true) (under : file.parent.isUnder a.solibDir = true)
    (apart : ∀ text, a.runtimeSolibDir = some text → Path.parse text = file.parent →
      file.parent = a.solibDir) :
    file.parent.segments.drop a.solibDir.segments.length ∈ a.places plan ∧
      a.solibDir.descend (file.parent.segments.drop a.solibDir.segments.length) = file.parent := by
  obtain ⟨solib, own⟩ := rpathPlan_dirs hp
  have hidden : some file.parent = plan.runtimeSolibDir → file.parent = plan.solibDir := by
    intro he
    obtain ⟨text, ht, hparse⟩ := Option.map_eq_some_iff.1 (own ▸ he).symm
    exact solib ▸ apart text ht hparse
  obtain ⟨isRuntime, hi⟩ := mem_inputs_iff.1 hi
  obtain ⟨c, -, contributed⟩ := h.exists_of_input hi
  rw [← solib] at under ⊢
  refine ⟨?_, descend_of_contributionOf contributed hf dynamic under hidden⟩
  have library : file ∈ a.libraries isRuntime := mem_libraries_iff.2 ⟨dynamic, input, hi, hf⟩
  exact mem_places_iff.2 ⟨isRuntime, file, library, plan.place?_eq isRuntime hidden⟩

/-- **Each shared library is found.** Without native dependencies, the options that are added to the
arguments hold one that denotes the directory of the library and nothing else. -/
theorem exists_loaderDirs_eq_of_library (h : a.IsLaidOut output) (hn : a.nativeDeps = false)
    (success : a.appendInputOptions arguments whole includeLinkopts = .ok result) :
    ∃ appended, result = arguments ++ appended ∧
      ∀ input ∈ a.inputs, ∀ file, input.artifact = some file → file.isDynamicLibrary = true →
        Path.IsPlainText file.execPath → file.parent.isUnder a.solibDir = true →
        (∀ text, a.runtimeSolibDir = some text → Path.parse text = file.parent →
          file.parent = a.solibDir) →
        ∃ token ∈ appended, (behind? ("-Wl,-rpath," ++ a.origin) token).isSome ∧
          loaderDirs output.parent token = [file.parent] := by
  obtain ⟨plan, linked, runtime, hp, contributes, rfl⟩ := appendInputOptions_eq_ok success
  refine ⟨_, rfl, ?_⟩
  intro input hi file hf dynamic plain under apart
  obtain ⟨hplace, found⟩ := contributes.exists_place hp hi hf dynamic under apart
  have down := plain.isWayDown_parent a.solibDir.segments.length
  refine ⟨_, contributes.searchOption_mem_arrange hplace, ?_, ?_⟩
  · obtain ⟨depth, -, text⟩ := searchOption_eq _ hn hp
    rw [text, solibEntry, ← String.append_assoc, behind?_append]
    rfl
  · rw [h.loaderDirs_searchOption hn hp down, found]

/-- A shared object one directory below the output tree. -/
def pluginOutput : Artifact :=
  ⟨"buck-out/bin/pkg/libx.so", "buck-out/bin", by decide, by decide +kernel⟩

/-- A library in the solib directory itself. -/
def flatLibrary : Artifact := ⟨"buck-out/bin/_solib_k8/libb.so", "", by decide, .inl rfl⟩

/-- A library in a directory below the solib directory. -/
def deepLibrary : Artifact := ⟨"buck-out/bin/_solib_k8/sub/liba.so", "", by decide, .inl rfl⟩

/-- The link of the shared object with both libraries. -/
def pluginAction (nativeDeps : Bool) : Action where
  toolchain := {}
  ownerLabel := "//pkg:x"
  target := .dynamicLibrary
  staticness := .dynamic
  output := some pluginOutput
  linkerInputs := [.plain (some flatLibrary), .plain (some deepLibrary)]
  nativeDeps := nativeDeps

theorem isLaidOut_pluginAction (nativeDeps : Bool) :
    (pluginAction nativeDeps).IsLaidOut pluginOutput where
  output_eq := rfl
  root_eq := rfl
  below := show pluginOutput.path.IsBelow (Path.parse "buck-out/bin") by
    refine ⟨?_, ?_, ?_⟩ <;> decide
  output_plain := by constructor <;> decide
  solib_plain := show Path.IsPlainText "_solib_k8" by constructor <;> decide
  solib_relative := show (Path.parse "_solib_k8").isAbsolute = false by decide

theorem exists_loaderDirs_eq_of_deepLibrary : ∃ result,
    (pluginAction false).appendInputOptions ["gcc"] true true = .ok result ∧
      ∃ token ∈ result, loaderDirs pluginOutput.parent token =
        [Path.parse "buck-out/bin/_solib_k8/sub"] := by
  have success : (pluginAction false).appendInputOptions ["gcc"] true true = .ok [
      "gcc", "-Wl,-whole-archive", "-Wl,-rpath,$ORIGIN/../_solib_k8/", "-Lbuck-out/bin/_solib_k8",
      "-Wl,-rpath,$ORIGIN/../_solib_k8/sub", "-Lbuck-out/bin/_solib_k8/sub", "-lb", "-la",
      "-Wl,-no-whole-archive"] := by rfl
  obtain ⟨appended, added, found⟩ :=
    exists_loaderDirs_eq_of_library (isLaidOut_pluginAction false) rfl success
  obtain ⟨token, ht, -, denoted⟩ := found _ (.tail _ (.head _)) deepLibrary rfl (by decide)
    (by constructor <;> decide) (by decide) (by simp [pluginAction])
  exact ⟨_, success, token, added ▸ List.mem_append_right _ ht, denoted⟩

/-- Places of plain libraries lead down. -/
theorem isWayDown_of_mem_places (hp : place ∈ a.places plan)
    (plain : ∀ file ∈ a.inputFiles, Path.IsPlainText file.execPath) : Path.IsWayDown place := by
  obtain ⟨isRuntime, file, library, hplace⟩ := mem_places_iff.1 hp
  obtain ⟨-, input, hi, hf⟩ := mem_libraries_iff.1 library
  have hi := mem_inputs_iff.2 ⟨isRuntime, hi⟩
  unfold RpathPlan.place? at hplace
  split at hplace
  · cases hplace
    exact Path.isWayDown_nil
  · split at hplace
    · cases hplace
    · cases hplace
      exact (plain file (mem_inputFiles_iff.2 ⟨input, hi, .inl hf⟩)).isWayDown_parent _

/-- **What finds a library among native dependencies.** Every option that the link adds for its
libraries names the solib directory itself and then a place below the directory of the output. So
a library is found in the solib directory, or where such a place happens to end; any other library
is found by chance only, through the option of the runtime directory, a linkopt or the path of an
input that reads as a run path. -/
theorem mem_loaderDirs_iff_of_native (h : a.IsLaidOut output) (hn : a.nativeDeps = true)
    (hs : a.toolchain.shareNativeDeps = false)
    (plain : ∀ file ∈ a.inputFiles, Path.IsPlainText file.execPath)
    (success : a.appendInputOptions arguments whole includeLinkopts = .ok result) :
    ∃ plan appended, a.rpathPlan = .ok plan ∧ result = arguments ++ appended ∧
      ∀ input ∈ a.inputs, ∀ file, input.artifact = some file → file.isDynamicLibrary = true →
        file.parent.isUnder a.solibDir = true →
        (∀ text, a.runtimeSolibDir = some text → Path.parse text = file.parent →
          file.parent = a.solibDir) →
        ((∃ token ∈ appended, file.parent ∈ loaderDirs output.parent token) ↔
          file.parent = a.solibDir ∨
          (∃ place ∈ a.places plan, file.parent = output.parent.descend place) ∨
          ∃ token ∈ appended, (plan.runtimeOption = some token ∨
              token ∈ a.linkopts ++ a.inputFiles.map (·.execPath)) ∧
            file.parent ∈ loaderDirs output.parent token) := by
  obtain ⟨plan, linked, runtime, hp, contributes, rfl⟩ := appendInputOptions_eq_ok success
  refine ⟨plan, _, hp, rfl, ?_⟩
  intro input hi file hf dynamic under apart
  -- Every place has an option among the added ones, with two entries.
  have entries (place : List Path.Segment) (hplace : place ∈ a.places plan) :=
    h.loaderDirs_searchOption_of_native hn hs hp (isWayDown_of_mem_places hplace plain)
  constructor
  · rintro ⟨token, added, found⟩
    rcases contributes.mem_arrange_cases added with searched | own | given | option
    · obtain ⟨place, hplace, rfl⟩ := List.mem_map.1 searched
      rw [entries place hplace, List.mem_cons, List.mem_singleton] at found
      rcases found with solib | below
      · exact .inl solib
      · exact .inr (.inl ⟨place, hplace, below⟩)
    · exact .inr (.inr ⟨token, added, .inl own, found⟩)
    · exact .inr (.inr ⟨token, added, .inr given, found⟩)
    · rw [loaderDirs_of_isLinkerOption option] at found
      cases found
  · rintro (solib | ⟨place, hplace, below⟩ | ⟨token, added, -, found⟩)
    · obtain ⟨hplace, -⟩ := contributes.exists_place hp hi hf dynamic under apart
      refine ⟨_, contributes.searchOption_mem_arrange hplace, ?_⟩
      rw [entries _ hplace, solib]
      exact .head _
    · refine ⟨_, contributes.searchOption_mem_arrange hplace, ?_⟩
      rw [entries place hplace, below]
      exact .tail _ (.head _)
    · exact ⟨token, added, found⟩

theorem plain_inputFiles_pluginAction :
    ∀ file ∈ (pluginAction true).inputFiles, Path.IsPlainText file.execPath := by
  have files : (pluginAction true).inputFiles = [flatLibrary, deepLibrary] := rfl
  rw [files, List.forall_mem_cons, List.forall_mem_singleton]
  refine ⟨⟨?_, ?_⟩, ?_, ?_⟩ <;> decide

/-- The options of the link with native dependencies. -/
theorem appendInputOptions_pluginAction :
    (pluginAction true).appendInputOptions ["gcc"] true true = .ok [
      "gcc", "-Wl,-whole-archive", "-Wl,-rpath,$ORIGIN/../_solib_k8/:$ORIGIN/",
      "-Lbuck-out/bin/_solib_k8", "-Wl,-rpath,$ORIGIN/../_solib_k8/:$ORIGIN/sub",
      "-Lbuck-out/bin/_solib_k8/sub", "-lb", "-la", "-Wl,-no-whole-archive"] := by rfl

theorem mem_loaderDirs_of_flatLibrary : ∃ result,
    (pluginAction true).appendInputOptions ["gcc"] true true = .ok result ∧
      ∃ token ∈ result, flatLibrary.parent ∈ loaderDirs pluginOutput.parent token := by
  obtain ⟨plan, appended, -, added, found⟩ :=
    mem_loaderDirs_iff_of_native (isLaidOut_pluginAction true) rfl rfl
      plain_inputFiles_pluginAction appendInputOptions_pluginAction
  obtain ⟨token, ht, denoted⟩ := (found _ (.head _) flatLibrary rfl (by decide) (by decide)
    (by simp [pluginAction])).2 (.inl (by decide))
  exact ⟨_, appendInputOptions_pluginAction, token, added ▸ List.mem_append_right _ ht, denoted⟩

/-- The other library of the same link lies under the solib directory too and is not found, as its
place went behind the directory of the output. -/
theorem notMem_loaderDirs_of_deepLibrary :
    (pluginAction true).IsLaidOut pluginOutput ∧ (pluginAction true).nativeDeps = true ∧
      (pluginAction true).toolchain.shareNativeDeps = false ∧
      (∀ file ∈ (pluginAction true).inputFiles, Path.IsPlainText file.execPath) ∧
      (pluginAction true).runtimeSolibDir = none ∧
      .plain (some deepLibrary) ∈ (pluginAction true).linkerInputs ∧
      deepLibrary.isDynamicLibrary = true ∧
      deepLibrary.parent.isUnder (pluginAction true).solibDir = true ∧
      ∃ result, (pluginAction true).appendInputOptions ["gcc"] true true = .ok result ∧
        ∀ token ∈ result, deepLibrary.parent ∉ loaderDirs pluginOutput.parent token := by
  refine ⟨isLaidOut_pluginAction true, rfl, rfl, plain_inputFiles_pluginAction, rfl,
    .tail _ (.head _), by decide, by decide, _, appendInputOptions_pluginAction, ?_⟩
  decide

end Action
end LinkSynthesis

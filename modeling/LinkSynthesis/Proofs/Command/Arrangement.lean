import LinkSynthesis.Proofs.Command.InputOptions

/-!
# Arranged input options

The arrangement of the contributions, part by part: what comes in front, the options that say where
libraries are found, the tokens of the inputs with the markers between them, and the linkopts. The
library options follow from the shared libraries alone (`Contributes.arrange_eq`).
-/

namespace LinkSynthesis.Action

variable {a : Action} {plan : RpathPlan} {file : Artifact} {isRuntime : Bool} {token : String}
  {linked runtime : List Contribution} {whole includeLinkopts : Bool}

/-! ### Library options -/

/-- The shared libraries among the inputs, those of the link first. -/
def sharedLibraries (a : Action) : List Artifact := a.libraries false ++ a.libraries true

theorem mem_sharedLibraries_iff :
    file ∈ a.sharedLibraries ↔ ∃ isRuntime, file ∈ a.libraries isRuntime := by
  simp [sharedLibraries]

theorem mem_sharedLibraries_iff_input : file ∈ a.sharedLibraries ↔
    file.isDynamicLibrary = true ∧ ∃ input ∈ a.inputs, input.artifact = some file := by
  simp only [mem_sharedLibraries_iff, mem_libraries_iff, mem_inputs_iff]
  constructor
  · rintro ⟨isRuntime, dynamic, input, hi, hf⟩
    exact ⟨dynamic, input, ⟨isRuntime, hi⟩, hf⟩
  · rintro ⟨dynamic, input, ⟨isRuntime, hi⟩, hf⟩
    exact ⟨isRuntime, dynamic, input, hi, hf⟩

/-- What the libraries ask for, in the order of the inputs. -/
def askedOptions (a : Action) (plan : RpathPlan) : List String :=
  [false, true].flatMap fun isRuntime =>
    (a.libraries isRuntime).flatMap fun file =>
      (libraryContribution plan isRuntime file).searchOptions

/-- The options that say where the libraries of the action are found, in the order of first use. -/
def libraryOptions (a : Action) (plan : RpathPlan) : List String :=
  (a.askedOptions plan).eraseDups

theorem mem_libraryOptions_iff : token ∈ a.libraryOptions plan ↔
    ∃ isRuntime, ∃ file ∈ a.libraries isRuntime,
      token ∈ (libraryContribution plan isRuntime file).searchOptions := by
  simp [libraryOptions, askedOptions]

/-- The linker is told the directory of every library. -/
theorem linkerOption_mem_libraryOptions (hfile : file ∈ a.sharedLibraries) :
    "-L" ++ file.parent.toString ∈ a.libraryOptions plan := by
  obtain ⟨isRuntime, library⟩ := mem_sharedLibraries_iff.1 hfile
  exact mem_libraryOptions_iff.2
    ⟨isRuntime, file, library, List.mem_append_right _ (List.mem_singleton_self _)⟩

/-- A library option is that of a place, or a directory for the linker. -/
theorem mem_libraryOptions_cases (h : token ∈ a.libraryOptions plan) :
    token ∈ (a.places plan).map plan.searchOption ∨ ∃ dir, token = "-L" ++ dir := by
  obtain ⟨isRuntime, file, library, asked⟩ := mem_libraryOptions_iff.1 h
  rcases List.mem_append.1 asked with search | directory
  · split at search
    · cases search
    · obtain ⟨place, hp, rfl⟩ := Option.map_eq_some_iff.1 (Option.mem_toList.1 search)
      exact .inl (List.mem_map_of_mem (mem_places_iff.2 ⟨isRuntime, file, library, hp⟩))
  · exact .inr ⟨_, List.mem_singleton.1 directory⟩

/-- Only libraries ask for search options. -/
theorem flatMap_searchOptions {inputs : List LinkerInput} {contributions : List Contribution}
    (h : List.Forall₂ (fun input c => a.contributionOf plan isRuntime input = .ok c)
      inputs contributions) :
    contributions.flatMap (·.searchOptions) =
      ((inputs.filterMap (·.artifact)).filter (·.isDynamicLibrary)).flatMap fun file =>
        (libraryContribution plan isRuntime file).searchOptions := by
  induction h with
  | nil => rfl
  | cons contributed _ ih =>
    obtain ⟨file, hf, ⟨dynamic, -, rfl⟩ | ⟨static, tokens, -, rfl⟩⟩ :=
      contributionOf_cases contributed
    · simp [hf, dynamic, ih]
    · simp [hf, static, ih]

namespace Contributes

variable (h : a.Contributes plan linked runtime)

include h

theorem forall₂_linked :
    List.Forall₂ (fun input c => a.contributionOf plan false input = .ok c) a.linkerInputs linked :=
  mapM_eq_ok_iff.1 h.linked

theorem forall₂_runtime :
    List.Forall₂ (fun input c => a.contributionOf plan true input = .ok c)
      a.runtimeInputs runtime :=
  mapM_eq_ok_iff.1 h.runtime

theorem flatMap_searchOptions_append :
    (linked ++ runtime).flatMap (·.searchOptions) = a.askedOptions plan := by
  have ofLinked : linked.flatMap (·.searchOptions) = (a.libraries false).flatMap _ :=
    flatMap_searchOptions h.forall₂_linked
  have ofRuntime : runtime.flatMap (·.searchOptions) = (a.libraries true).flatMap _ :=
    flatMap_searchOptions h.forall₂_runtime
  rw [List.flatMap_append, ofLinked, ofRuntime]
  simp [askedOptions]

end Contributes

/-! ### Options in front -/

/-- What stands in front of the library options. -/
def frontOptions (a : Action) (plan : RpathPlan) (linked runtime : List Contribution)
    (whole : Bool) : List String :=
  (if whole then [a.wholeArchiveMarkers.opening] else []) ++ plan.runtimeOption.toList ++
    if (linked ++ runtime).any (·.needsRoot) then [plan.root] else []

theorem mem_frontOptions_iff : token ∈ a.frontOptions plan linked runtime whole ↔
    whole = true ∧ token = a.wholeArchiveMarkers.opening ∨ plan.runtimeOption = some token ∨
      (linked ++ runtime).any (·.needsRoot) = true ∧ token = plan.root := by
  rw [frontOptions, List.mem_append, List.mem_append, Option.mem_toList, or_assoc]
  refine or_congr ?_ (or_congr_right ?_) <;> split <;> simp [*]

/-- A region for all linker inputs begins in front of everything else. -/
theorem frontOptions_eq (plan : RpathPlan) (whole : Bool) :
    a.frontOptions plan linked runtime whole =
      (if whole then [a.wholeArchiveMarkers.opening] else []) ++
        a.frontOptions plan linked runtime false := by
  simp [frontOptions]

/-- The options in front of the tokens say where libraries are found, but for a marker that opens a
region for all. -/
theorem mem_options_cases (hp : a.rpathPlan = .ok plan)
    (h : token ∈ a.frontOptions plan linked runtime false ++ a.libraryOptions plan) :
    (∃ entries, token = "-Wl,-rpath," ++ entries) ∨ ∃ dir, token = "-L" ++ dir := by
  rcases List.mem_append.1 h with front | library
  · rcases mem_frontOptions_iff.1 front with ⟨whole, -⟩ | own | ⟨-, root⟩
    · cases whole
    · exact .inl (exists_eq_rpath hp (.inr own))
    · exact .inl (exists_eq_rpath hp (.inl root))
  · refine (mem_libraryOptions_cases library).imp_left fun search => ?_
    obtain ⟨place, -, rfl⟩ := List.mem_map.1 search
    obtain ⟨entries, root⟩ := exists_eq_rpath hp (.inl rfl)
    rw [RpathPlan.searchOption, root, String.append_assoc]
    exact ⟨_, rfl⟩

/-! ### Tokens -/

/-- The tokens of the inputs, with the markers between them. -/
def markedTokens (a : Action) (linked runtime : List Contribution) (whole : Bool) : List String :=
  let linkedTokens := linked.flatMap (·.tokens)
  let runtimeTokens := runtime.flatMap (·.tokens)
  if whole then linkedTokens ++ a.wholeArchiveMarkers.closing :: runtimeTokens
  else if a.target.isStaticLibrary then linkedTokens ++ runtimeTokens
  else (linkedTokens ++ runtimeTokens).flatMap (wrapAlwaysLink a.wholeArchiveMarkers)

/-- A link that does not link everything whole marks each always-link library. -/
theorem markedTokens_of_link (link : a.target.isStaticLibrary = false) :
    a.markedTokens linked runtime false =
      ((linked ++ runtime).flatMap (·.tokens)).flatMap (wrapAlwaysLink a.wholeArchiveMarkers) := by
  simp [markedTokens, link]

/-- An archive action marks nothing. -/
theorem markedTokens_of_archive (archive : a.target.isStaticLibrary = true) :
    a.markedTokens linked runtime false = (linked ++ runtime).flatMap (·.tokens) := by
  simp [markedTokens, archive]

theorem mem_wrapAlwaysLink (markers : WholeArchiveMarkers) (token : String) :
    token ∈ wrapAlwaysLink markers token := by
  unfold wrapAlwaysLink
  split <;> simp

theorem mem_wrapAlwaysLink_cases {markers : WholeArchiveMarkers} {wrapped : String}
    (h : token ∈ wrapAlwaysLink markers wrapped) :
    token = wrapped ∨ token = markers.opening ∨ token = markers.closing := by
  unfold wrapAlwaysLink at h
  split at h
  · simpa [or_left_comm] using h
  · exact .inl (List.mem_singleton.1 h)

/-- No token is lost between the markers. -/
theorem mem_markedTokens (h : token ∈ (linked ++ runtime).flatMap (·.tokens)) :
    token ∈ a.markedTokens linked runtime whole := by
  rw [List.flatMap_append] at h
  unfold markedTokens
  dsimp only
  split
  · rw [List.mem_append, List.mem_cons]
    exact (List.mem_append.1 h).imp_right .inr
  · split
    · exact h
    · exact List.mem_flatMap.2 ⟨token, h, mem_wrapAlwaysLink _ _⟩

theorem mem_markedTokens_cases (h : token ∈ a.markedTokens linked runtime whole) :
    token ∈ (linked ++ runtime).flatMap (·.tokens) ∨ token = a.wholeArchiveMarkers.opening ∨
      token = a.wholeArchiveMarkers.closing := by
  rw [List.flatMap_append]
  unfold markedTokens at h
  dsimp only at h
  split at h
  · rw [List.mem_append, List.mem_cons] at h
    rcases h with linked | closing | runtime
    · exact .inl (List.mem_append_left _ linked)
    · exact .inr (.inr closing)
    · exact .inl (List.mem_append_right _ runtime)
  · split at h
    · exact .inl h
    · obtain ⟨wrapped, hw, ht⟩ := List.mem_flatMap.1 h
      rcases mem_wrapAlwaysLink_cases ht with rfl | marker
      · exact .inl hw
      · exact .inr marker

/-! ### The whole arrangement -/

/-- The arguments that the arrangement writes by itself, apart from run paths. -/
inductive IsLinkerOption (markers : WholeArchiveMarkers) : String → Prop
  | opening : IsLinkerOption markers markers.opening
  | closing : IsLinkerOption markers markers.closing
  | input {token : String} (h : IsInputOption token) : IsLinkerOption markers token

namespace Contributes

variable (h : a.Contributes plan linked runtime)

include h

theorem arrange_eq :
    a.arrange plan linked runtime whole includeLinkopts =
      a.frontOptions plan linked runtime whole ++ a.libraryOptions plan ++
        (a.markedTokens linked runtime whole ++ if includeLinkopts then a.linkopts else []) := by
  rw [libraryOptions, ← h.flatMap_searchOptions_append, ← List.append_assoc]
  rfl

/-- The option of every place is among the options. -/
theorem searchOption_mem_arrange {place : List Path.Segment} (hp : place ∈ a.places plan) :
    plan.searchOption place ∈ a.arrange plan linked runtime whole includeLinkopts := by
  obtain ⟨isRuntime, file, library, hplace⟩ := mem_places_iff.1 hp
  rw [h.arrange_eq]
  refine List.mem_append_left _ (List.mem_append.2 ?_)
  cases covered : plan.covers isRuntime file.parent with
  | true =>
    -- The root is the option of the empty place.
    have empty : place = [] := by simpa [RpathPlan.place?, covered, eq_comm] using hplace
    obtain ⟨dynamic, input, hi, hf⟩ := mem_libraries_iff.1 library
    obtain ⟨c, hc, contributed⟩ := h.exists_of_input hi
    obtain ⟨-, rfl⟩ := contributionOf_of_dynamic contributed hf dynamic
    have needed : (linked ++ runtime).any (·.needsRoot) = true :=
      List.any_eq_true.2 ⟨_, hc, covered⟩
    rw [empty, plan.searchOption_nil]
    exact .inl (mem_frontOptions_iff.2 (.inr (.inr ⟨needed, rfl⟩)))
  | false =>
    refine .inr (mem_libraryOptions_iff.2 ⟨isRuntime, file, library, ?_⟩)
    simp [libraryContribution, covered, hplace]

theorem runtimeOption_mem_arrange {option : String} (ho : plan.runtimeOption = some option) :
    option ∈ a.arrange plan linked runtime whole includeLinkopts := by
  rw [h.arrange_eq]
  exact List.mem_append_left _ (List.mem_append_left _ (mem_frontOptions_iff.2 (.inr (.inl ho))))

/-- An option is that of a place or of the runtime directory, or an argument without run paths, or
handed on as it was given. -/
theorem mem_arrange_cases (ht : token ∈ a.arrange plan linked runtime whole includeLinkopts) :
    token ∈ (a.places plan).map plan.searchOption ∨ plan.runtimeOption = some token ∨
      token ∈ a.linkopts ++ a.inputFiles.map (·.execPath) ∨
      IsLinkerOption a.wholeArchiveMarkers token := by
  rw [h.arrange_eq] at ht
  simp only [List.mem_append] at ht
  rcases ht with (front | library) | tokens | linkopts
  · rcases mem_frontOptions_iff.1 front with ⟨-, rfl⟩ | runtime | ⟨needed, rfl⟩
    · exact .inr (.inr (.inr .opening))
    · exact .inr (.inl runtime)
    · obtain ⟨c, hc, needsRoot⟩ := List.any_eq_true.1 needed
      obtain ⟨isRuntime, input, hi, contributed⟩ := h.exists_of_mem hc
      rw [← plan.searchOption_nil]
      exact .inl (List.mem_map_of_mem (nil_mem_places_of_needsRoot contributed hi needsRoot))
  · rcases mem_libraryOptions_cases library with place | ⟨dir, rfl⟩
    · exact .inl place
    · exact .inr (.inr (.inr (.input (.directory dir))))
  · rcases mem_markedTokens_cases tokens with token | rfl | rfl
    · obtain ⟨c, hc, ht⟩ := List.mem_flatMap.1 token
      obtain ⟨isRuntime, input, hi, contributed⟩ := h.exists_of_mem hc
      rcases mem_tokens_cases contributed hi ht with path | option
      · exact .inr (.inr (.inl (List.mem_append_right _ path)))
      · exact .inr (.inr (.inr (.input option)))
    · exact .inr (.inr (.inr .opening))
    · exact .inr (.inr (.inr .closing))
  · split at linkopts
    · exact .inr (.inr (.inl (List.mem_append_left _ linkopts)))
    · cases linkopts

end Contributes

end LinkSynthesis.Action

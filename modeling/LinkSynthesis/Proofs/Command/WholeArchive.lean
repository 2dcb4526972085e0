import LinkSynthesis.Proofs.Artifact.FileType
import LinkSynthesis.Proofs.Command.Arrangement

/-!
# Regions that are linked whole

What the linker makes of the markers among the input options: which arguments stand in a region
where archives are linked whole, and that every region is closed. Such regions are decided token by
token. So an always-link library is in one if it is passed by a name that tells, and not in one if
its members are passed in its place.
-/

namespace LinkSynthesis

/-- A text is none that does not begin like it. -/
theorem append_ne_of_front {front text : String} (h : ¬front.toList <+: text.toList)
    (rest : String) : front ++ rest ≠ text := by
  rintro rfl
  exact h (by simp)

/-- An element of two lists, one behind the other, is one of the first or one of the second. -/
theorem append_eq_append_cons_cases {α : Type} {l rest front after : List α} {x : α}
    (h : l ++ rest = front ++ x :: after) :
    (∃ inside, l = front ++ x :: inside ∧ after = inside ++ rest) ∨
      ∃ more, rest = more ++ x :: after ∧ front = l ++ more := by
  rcases List.append_eq_append_iff.1 h with ⟨more, rfl, behind⟩ | ⟨inside, rfl, behind⟩
  · exact .inr ⟨more, behind, rfl⟩
  · cases inside with
    | nil => exact .inr ⟨[], behind.symm, by simp⟩
    | cons y inside =>
      obtain ⟨rfl, rfl⟩ := List.cons.inj behind
      exact .inl ⟨inside, rfl, rfl⟩

/-! ### Reading between markers -/

namespace WholeArchiveMarkers

variable {markers : WholeArchiveMarkers} {inside inside' last : Bool} {token : String}
  {tokens tokens' : List String} {labelled labelled' : List (String × Bool)}

/-- The arguments beside the markers, each with whether it stands in a region, and whether a region
is open behind the last one. -/
def scan (markers : WholeArchiveMarkers) : Bool → List String → List (String × Bool) × Bool
  | inside, [] => ([], inside)
  | inside, token :: tokens =>
    if token = markers.opening then markers.scan true tokens
    else if token = markers.closing then markers.scan false tokens
    else
      let (labelled, last) := markers.scan inside tokens
      ((token, inside) :: labelled, last)

/-- The argument is no marker. -/
def IsUnmarked (markers : WholeArchiveMarkers) (token : String) : Prop :=
  token ≠ markers.opening ∧ token ≠ markers.closing

instance : DecidablePred markers.IsUnmarked := fun token =>
  inferInstanceAs (Decidable (token ≠ markers.opening ∧ token ≠ markers.closing))

/-- A text that does not begin like a marker is none. -/
theorem isUnmarked_append {front : String} (opening : ¬front.toList <+: markers.opening.toList)
    (closing : ¬front.toList <+: markers.closing.toList) (rest : String) :
    markers.IsUnmarked (front ++ rest) :=
  ⟨append_ne_of_front opening rest, append_ne_of_front closing rest⟩

theorem scan_append (first : markers.scan inside tokens = (labelled, inside'))
    (second : markers.scan inside' tokens' = (labelled', last)) :
    markers.scan inside (tokens ++ tokens') = (labelled ++ labelled', last) := by
  induction tokens generalizing inside labelled with
  | nil =>
    cases first
    exact second
  | cons token tokens ih =>
    rw [scan] at first
    rw [List.cons_append, scan]
    split at first
    · rw [if_pos ‹_›]
      exact ih first
    · rw [if_neg ‹_›]
      split at first
      · rw [if_pos ‹_›]
        exact ih first
      · rw [if_neg ‹_›]
        cases first
        rw [ih rfl]
        rfl

theorem scan_opening :
    markers.scan inside (markers.opening :: tokens) = markers.scan true tokens := by
  rw [scan, if_pos rfl]

theorem scan_closing (apart : markers.closing ≠ markers.opening) :
    markers.scan inside (markers.closing :: tokens) = markers.scan false tokens := by
  rw [scan, if_neg apart, if_pos rfl]

/-- Without markers everything is where the first argument is. -/
theorem scan_eq_map (h : ∀ token ∈ tokens, markers.IsUnmarked token) :
    markers.scan inside tokens = (tokens.map (·, inside), inside) := by
  induction tokens with
  | nil => rfl
  | cons token tokens ih =>
    obtain ⟨⟨opening, closing⟩, rest⟩ := List.forall_mem_cons.1 h
    rw [scan, if_neg opening, if_neg closing, ih rest]
    rfl

theorem scan_wrapAlwaysLink (apart : markers.closing ≠ markers.opening)
    (h : markers.IsUnmarked token) :
    markers.scan false (Action.wrapAlwaysLink markers token) =
      ([(token, FileType.isAlwaysLinkLibrary token)], false) := by
  have alone : ∀ t ∈ [token], markers.IsUnmarked t := List.forall_mem_singleton.2 h
  unfold Action.wrapAlwaysLink
  split
  · next alwaysLink =>
    have closed : markers.scan true [markers.closing] = ([], false) := scan_closing apart
    rw [alwaysLink, scan_opening]
    exact scan_append (scan_eq_map alone) closed
  · next other =>
    rw [eq_false_of_ne_true other]
    exact scan_eq_map alone

/-- Each always-link library has a region of its own. -/
theorem scan_flatMap_wrapAlwaysLink (apart : markers.closing ≠ markers.opening)
    (h : ∀ token ∈ tokens, markers.IsUnmarked token) :
    markers.scan false (tokens.flatMap (Action.wrapAlwaysLink markers)) =
      (tokens.map fun token => (token, FileType.isAlwaysLinkLibrary token), false) := by
  induction tokens with
  | nil => rfl
  | cons token tokens ih =>
    obtain ⟨first, rest⟩ := List.forall_mem_cons.1 h
    exact scan_append (scan_wrapAlwaysLink apart first) (ih rest)

end WholeArchiveMarkers

namespace Action

variable {a : Action} {plan : RpathPlan} {input : LinkerInput} {file : Artifact}
  {linked runtime : List Contribution} {c : Contribution} {token : String}
  {tokens arguments result : List String} {whole includeLinkopts : Bool}

/-! ### What is no marker -/

theorem closing_ne_opening (a : Action) :
    a.wholeArchiveMarkers.closing ≠ a.wholeArchiveMarkers.opening := by
  unfold wholeArchiveMarkers
  split <;> decide

theorem isUnmarked_of_isInputOption (h : IsInputOption token) :
    a.wholeArchiveMarkers.IsUnmarked token := by
  unfold wholeArchiveMarkers
  cases h with
  | startLib | endLib => split <;> decide
  | directory | library | fakeObject =>
    split <;> exact WholeArchiveMarkers.isUnmarked_append (by decide) (by decide) _

theorem isUnmarked_rpath (a : Action) (entries : String) :
    a.wholeArchiveMarkers.IsUnmarked ("-Wl,-rpath," ++ entries) := by
  unfold wholeArchiveMarkers
  split <;> exact WholeArchiveMarkers.isUnmarked_append (by decide) (by decide) _

/-- No option in front of the tokens is a marker, but for the one that opens a region for all. -/
theorem isUnmarked_of_mem_options (hp : a.rpathPlan = .ok plan)
    (h : token ∈ a.frontOptions plan linked runtime false ++ a.libraryOptions plan) :
    a.wholeArchiveMarkers.IsUnmarked token := by
  rcases mem_options_cases hp h with ⟨entries, rfl⟩ | ⟨dir, rfl⟩
  · exact a.isUnmarked_rpath entries
  · exact isUnmarked_of_isInputOption (.directory dir)

/-- The tokens of the inputs are no markers if no file is named like one. -/
theorem Contributes.isUnmarked_of_mem_tokens (h : a.Contributes plan linked runtime)
    (named : ∀ file ∈ a.inputFiles, a.wholeArchiveMarkers.IsUnmarked file.execPath)
    (hc : c ∈ linked ++ runtime) (ht : token ∈ c.tokens) :
    a.wholeArchiveMarkers.IsUnmarked token := by
  obtain ⟨isRuntime, input, hi, contributed⟩ := h.exists_of_mem hc
  rcases mem_tokens_cases contributed hi ht with path | option
  · obtain ⟨file, hfile, rfl⟩ := List.mem_map.1 path
    exact named file hfile
  · exact isUnmarked_of_isInputOption option

/-! ### Where the tokens stand -/

/-- Tokens of the link stand in a region with all others, or as names of always-link libraries;
tokens of the runtime in the second case only, and only where nothing else is linked whole. -/
theorem Contributes.scan_markedTokens (h : a.Contributes plan linked runtime) (whole : Bool)
    (target : a.target.isStaticLibrary = false)
    (named : ∀ file ∈ a.inputFiles, a.wholeArchiveMarkers.IsUnmarked file.execPath) :
    a.wholeArchiveMarkers.scan whole (a.markedTokens linked runtime whole) =
      ((linked.flatMap (·.tokens)).map (fun token =>
          (token, whole || FileType.isAlwaysLinkLibrary token)) ++
        (runtime.flatMap (·.tokens)).map (fun token =>
          (token, !whole && FileType.isAlwaysLinkLibrary token)), false) := by
  have unmarked {contributions : List Contribution} (sub : contributions ⊆ linked ++ runtime) :
      ∀ token ∈ contributions.flatMap (·.tokens), a.wholeArchiveMarkers.IsUnmarked token := by
    intro token ht
    obtain ⟨c, hc, ht⟩ := List.mem_flatMap.1 ht
    exact h.isUnmarked_of_mem_tokens named (sub hc) ht
  cases whole with
  | true =>
    refine WholeArchiveMarkers.scan_append
      (WholeArchiveMarkers.scan_eq_map (unmarked (List.subset_append_left _ _))) ?_
    rw [WholeArchiveMarkers.scan_closing a.closing_ne_opening]
    exact WholeArchiveMarkers.scan_eq_map (unmarked (List.subset_append_right _ _))
  | false =>
    rw [markedTokens_of_link target, WholeArchiveMarkers.scan_flatMap_wrapAlwaysLink
      a.closing_ne_opening (unmarked (List.Subset.refl _))]
    simp

/-- The mark of a stand-in object does not matter. -/
theorem isAlwaysLinkLibrary_fakeObjectMark (name : String) :
    FileType.isAlwaysLinkLibrary (fakeObjectMark ++ name) =
      FileType.isAlwaysLinkLibrary name :=
  FileType.isAlwaysLinkLibrary_append_eq (by decide) (by decide) name

/-- All tokens of an input name always-link libraries just if it is passed by its own name and that
is one. -/
theorem forall_isAlwaysLinkLibrary_iff (hf : input.artifact = some file)
    (static : a.staticTokens input = .ok tokens) :
    (∀ token ∈ tokens, FileType.isAlwaysLinkLibrary token = true) ↔
      a.usesStartEndLib input = .ok false ∧ FileType.isAlwaysLinkLibrary file.execPath = true := by
  rw [staticTokens, hf, Artifact.require_some, except_bind_ok] at static
  obtain ⟨grouped, hg, static⟩ := bind_eq_ok_iff.1 static
  rw [hg]
  cases grouped with
  | true =>
    -- The option that begins the group names no library.
    obtain ⟨members, -, static⟩ := bind_eq_ok_iff.1 static
    cases static
    simp only [Except.ok.injEq, Bool.true_eq_false, false_and, iff_false]
    intro all
    exact absurd (all _ (.head _)) (by decide)
  | false =>
    simp only [true_and]
    rw [if_neg (by decide)] at static
    split at static
    · cases static
      simp [isAlwaysLinkLibrary_fakeObjectMark]
    · cases static
      simp

/-- **What a link forces in.** The added options apart from the linkopts leave no region open. With
`whole`, all that is added for the link stands in one region and nothing of the runtime does;
without, just the names of always-link libraries stand in regions. So everything passed for an input
is linked whole if the link is, or if the input is passed by its own name and that is the name of an
always-link library, wherever the library lies; otherwise it is not. -/
theorem exists_scan_eq_of_link (target : a.target.isStaticLibrary = false)
    (named : ∀ file ∈ a.inputFiles, a.wholeArchiveMarkers.IsUnmarked file.execPath)
    (success : a.appendInputOptions arguments whole includeLinkopts = .ok result) :
    ∃ plan linked runtime body, a.rpathPlan = .ok plan ∧ a.Contributes plan linked runtime ∧
      result = arguments ++ (body ++ if includeLinkopts then a.linkopts else []) ∧
      a.wholeArchiveMarkers.scan false body =
        ((a.frontOptions plan linked runtime false ++ a.libraryOptions plan).map (·, whole) ++
          ((linked.flatMap (·.tokens)).map (fun token =>
              (token, whole || FileType.isAlwaysLinkLibrary token)) ++
            (runtime.flatMap (·.tokens)).map (fun token =>
              (token, !whole && FileType.isAlwaysLinkLibrary token))), false) ∧
      ∀ input ∈ a.linkerInputs, ∀ file, input.artifact = some file →
        file.isDynamicLibrary = false →
        (∃ c ∈ linked, a.contributionOf plan false input = .ok c ∧
          ((∀ token ∈ c.tokens, (whole || FileType.isAlwaysLinkLibrary token) = true) ↔
            whole = true ∨ a.usesStartEndLib input = .ok false ∧
              FileType.isAlwaysLinkLibrary file.execPath = true)) ∧
        (FileType.isAlwaysLinkLibrary file.filename = true →
          ∀ dir, file.execPath = dir ++ file.filename → '\n' ∉ dir.toList →
            FileType.isAlwaysLinkLibrary file.execPath = true) := by
  obtain ⟨plan, linked, runtime, hp, contributes, rfl⟩ := appendInputOptions_eq_ok success
  refine ⟨plan, linked, runtime, a.frontOptions plan linked runtime whole ++
    a.libraryOptions plan ++ a.markedTokens linked runtime whole, hp, contributes, ?_, ?_, ?_⟩
  · rw [contributes.arrange_eq]
    simp only [List.append_assoc]
  · have unmarked : ∀ token ∈ a.frontOptions plan linked runtime false ++ a.libraryOptions plan,
        a.wholeArchiveMarkers.IsUnmarked token :=
      fun token ht => isUnmarked_of_mem_options hp ht
    have body := WholeArchiveMarkers.scan_append (WholeArchiveMarkers.scan_eq_map unmarked)
      (contributes.scan_markedTokens whole target named)
    cases whole with
    | true =>
      rw [frontOptions_eq plan true, if_pos rfl, List.append_assoc [_], List.append_assoc [_],
        List.singleton_append, WholeArchiveMarkers.scan_opening]
      exact body
    | false => exact body
  · intro input hi file hf static
    constructor
    · obtain ⟨c, hc, contributed⟩ := exists_result_of_mem contributes.linked hi
      have contributed : a.contributionOf plan false input = .ok c := contributed
      refine ⟨c, hc, contributed, ?_⟩
      obtain ⟨file', hf', ⟨dynamic, -⟩ | ⟨-, tokens, ht, rfl⟩⟩ := contributionOf_cases contributed
      · cases hf.symm.trans hf'
        exact absurd (dynamic.symm.trans static) (by decide)
      · rw [← forall_isAlwaysLinkLibrary_iff hf ht]
        cases whole <;> simp
    · intro alwaysLink dir path line
      rw [path]
      exact FileType.isAlwaysLinkLibrary_append line alwaysLink

/-- An executable. -/
def registryOutput : Artifact :=
  ⟨"buck-out/bin/pkg/registrar", "buck-out/bin", by decide, by decide +kernel⟩

/-- An always-link library of registrations. -/
def registry : Artifact := ⟨"buck-out/bin/pkg/libreg.lo", "", by decide, .inl rfl⟩

/-- The object in the library. -/
def registryObject : Artifact := ⟨"buck-out/bin/pkg/reg.o", "", by decide, .inl rfl⟩

/-- The library with its member. -/
def registryInput : LinkerInput := .archive (some registry) [some registryObject]

/-- The link of the executable with the library. -/
def registryAction (archiveType : ArchiveType) : Action where
  toolchain := { archiveType }
  ownerLabel := "//pkg:registrar"
  target := .executable
  staticness := .fullyStatic
  output := some registryOutput
  linkerInputs := [registryInput]

theorem isUnmarked_registryAction (archiveType : ArchiveType) :
    ∀ file ∈ (registryAction archiveType).inputFiles,
      (registryAction archiveType).wholeArchiveMarkers.IsUnmarked file.execPath := by
  have files : (registryAction archiveType).inputFiles = [registry, registryObject] := rfl
  rw [files, List.forall_mem_cons, List.forall_mem_singleton]
  cases archiveType <;> refine ⟨⟨?_, ?_⟩, ?_, ?_⟩ <;> decide

theorem linkedWhole_of_fatRegistry : ∃ plan c,
    (registryAction .fat).contributionOf plan false registryInput = .ok c ∧
      ∀ token ∈ c.tokens, FileType.isAlwaysLinkLibrary token = true := by
  have success : (registryAction .fat).appendInputOptions ["gcc"] false true = .ok [
      "gcc", "-Wl,-whole-archive", "buck-out/bin/pkg/libreg.lo", "-Wl,-no-whole-archive"] := by
    decide +kernel
  obtain ⟨plan, linked, runtime, body, -, -, -, -, inputs⟩ :=
    exists_scan_eq_of_link rfl (isUnmarked_registryAction .fat) success
  obtain ⟨⟨c, -, contributed, all⟩, named⟩ := inputs _ (.head _) registry rfl (by decide)
  have alwaysLink := named (by decide) "buck-out/bin/pkg/" rfl (by decide)
  exact ⟨plan, c, contributed, all.2 (.inr ⟨rfl, alwaysLink⟩)⟩

/-- With its member in its place, the same library is not linked whole. -/
theorem scan_startEndLibRegistry :
    (registryAction .startEndLib).target.isStaticLibrary = false ∧
      (∀ file ∈ (registryAction .startEndLib).inputFiles,
        (registryAction .startEndLib).wholeArchiveMarkers.IsUnmarked file.execPath) ∧
      registryInput ∈ (registryAction .startEndLib).linkerInputs ∧
      registryInput.artifact = some registry ∧ registry.isDynamicLibrary = false ∧
      FileType.isAlwaysLinkLibrary registry.filename = true ∧
      ∃ result, (registryAction .startEndLib).appendInputOptions [] false true = .ok result ∧
        (registryAction .startEndLib).wholeArchiveMarkers.scan false result =
          ([("-Wl,--start-lib", false), ("buck-out/bin/pkg/reg.o", false),
            ("-Wl,--end-lib", false)], false) := by
  have success : (registryAction .startEndLib).appendInputOptions [] false true = .ok [
      "-Wl,--start-lib", "buck-out/bin/pkg/reg.o", "-Wl,--end-lib"] := by
    decide +kernel
  exact ⟨rfl, isUnmarked_registryAction .startEndLib, .head _, rfl, by decide, by decide, _,
    success, by decide +kernel⟩

end Action
end LinkSynthesis

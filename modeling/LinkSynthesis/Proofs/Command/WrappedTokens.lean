import LinkSynthesis.Proofs.Command.InputTokens
import LinkSynthesis.Proofs.Command.LibraryNames

/-!
# Tokens that get a region of their own

Which tokens a link wraps that does not link everything whole. Wrapping reads the text of a token
and no longer knows the input behind it. So an always-link library is wrapped where its path tells,
and so is whatever else reads like one: the name of a shared library, or a member of an archive
(`wrapped_of_link`).
-/

namespace LinkSynthesis

/-! ### Markers and the regions they open -/

/-- What stands behind an element stands behind a list that does not hold it. -/
theorem exists_eq_append_of_notMem {α : Type} {x : α} {l rest front after : List α} (hx : x ∉ l)
    (h : l ++ rest = front ++ x :: after) : ∃ more, rest = more ++ x :: after := by
  obtain ⟨inside, rfl, -⟩ | ⟨more, behind, -⟩ := append_eq_append_cons_cases h
  · exact absurd (List.mem_append_right _ (.head _)) hx
  · exact ⟨more, behind⟩

namespace WholeArchiveMarkers

variable {markers : WholeArchiveMarkers} {pieces : List Piece} {before after : List String}

/-- Every opening marker is that of a region. -/
theorem exists_region_of_opening (apart : markers.closing ≠ markers.opening)
    (unmarked : markers.AreUnmarked pieces)
    (h : pieces.flatMap (·.words markers) = before ++ markers.opening :: after) :
    ∃ tokens rest, .region tokens ∈ pieces ∧ after = tokens ++ markers.closing :: rest := by
  induction pieces generalizing before with
  | nil => simp at h
  | cons piece pieces ih =>
    obtain ⟨own, others⟩ := areUnmarked_cons.1 unmarked
    -- Behind the words of the first piece the marker is that of a later one.
    have later {front words : List String} (hw : markers.opening ∉ words)
        (h : words ++ pieces.flatMap (·.words markers) = front ++ markers.opening :: after) :
        ∃ tokens rest, .region tokens ∈ piece :: pieces ∧
          after = tokens ++ markers.closing :: rest := by
      obtain ⟨more, behind⟩ := exists_eq_append_of_notMem hw h
      obtain ⟨tokens, rest, region, shape⟩ := ih others behind
      exact ⟨tokens, rest, .tail _ region, shape⟩
    have inside : markers.opening ∉ piece.arguments := fun ho => (own _ ho).1 rfl
    rw [List.flatMap_cons] at h
    cases piece with
    | single token => exact later inside h
    | region tokens =>
      rw [Piece.words_region, List.cons_append] at h
      rcases List.cons_eq_append_iff.1 h with ⟨-, here⟩ | ⟨front, -, behind⟩
      · have shape := (List.cons.inj here).2
        rw [List.append_assoc, List.singleton_append] at shape
        exact ⟨tokens, _, .head _, shape⟩
      · refine later (fun ho => ?_) behind
        rw [List.mem_append, List.mem_singleton] at ho
        exact ho.elim inside apart.symm

/-- A region stands among what is written. -/
theorem words_infix_of_mem {piece : Piece} (h : piece ∈ pieces) :
    piece.words markers <:+: pieces.flatMap (·.words markers) := by
  obtain ⟨front, back, rfl⟩ := List.append_of_mem h
  rw [List.flatMap_append, List.flatMap_cons]
  exact List.infix_append' _ _ _

end WholeArchiveMarkers

/-! ### What reads like an always-link library -/

/-- The name of a library with what was taken from it; no `.so` is taken from within. -/
theorem eq_append_libraryName {filename : String} (lib : "lib".toList <+: filename.toList) :
    filename = "lib" ++ libraryName filename ++
      if ".so".toList.isSuffixOf filename.toList then ".so" else "" := by
  obtain ⟨text, ht⟩ := lib
  have text_eq : filename = "lib" ++ .ofList text := by
    rw [← String.toList_inj, ← ht]
    simp
  have stripped : libraryName filename =
      .ofList (if ".so".toList.isSuffixOf text then text.take (text.length - 3) else text) := by
    simp [libraryName, text_eq]
  -- The ending does not reach into the `lib` in front.
  have ending : ".so".toList <:+ filename.toList ↔ ".so".toList <:+ text := by
    rw [← ht]
    exact ⟨FileType.suffix_of_cons_suffix_append (by decide),
      fun h => h.trans (List.suffix_append _ _)⟩
  by_cases so : ".so".toList <:+ text
  · rw [if_pos (List.isSuffixOf_iff_suffix.2 (ending.2 so)), stripped,
      if_pos (List.isSuffixOf_iff_suffix.2 so)]
    obtain ⟨name, rfl⟩ := so
    rw [← String.toList_inj, ← ht]
    simp
  · rw [if_neg (mt List.isSuffixOf_iff_suffix.1 (mt ending.1 so)), stripped,
      if_neg (mt List.isSuffixOf_iff_suffix.1 so), String.append_empty]
    exact text_eq

/-- A shared library whose token reads like an always-link library has a name that does. -/
theorem exists_name_of_dynamicToken {file : Artifact} (dynamic : file.isDynamicLibrary = true)
    (h : FileType.isAlwaysLinkLibrary (Action.dynamicToken file) = true) :
    ∃ name, file.filename = "lib" ++ name ++ ".so" ∧ '\n' ∉ name.toList ∧
      FileType.isAlwaysLinkLibrary name = true := by
  -- The file itself is no always-link library, by its path or otherwise.
  have static : FileType.isAlwaysLinkLibrary file.filename ≠ true := fun own =>
    absurd (dynamic.symm.trans (FileType.isDynamicLibrary_of_isAlwaysLinkLibrary own)) (by decide)
  have lib : "lib".toList <+: file.filename.toList := by
    rw [Artifact.isDynamicLibrary, FileType.isDynamicLibrary, Bool.and_eq_true] at dynamic
    exact List.isPrefixOf_iff_prefix.1 dynamic.2
  have filename := eq_append_libraryName lib
  unfold Action.dynamicToken at h
  split at h
  · next shared =>
    rw [FileType.isAlwaysLinkLibrary_append_eq (by decide) (by decide)] at h
    split at filename
    · refine ⟨_, filename, fun broken => ?_, h⟩
      have unbroken := (FileType.isSharedLibrary_iff.1 shared).1
      rw [filename, String.toList_append, Text.Pattern.lineText_append _ (by decide)] at unbroken
      exact unbroken (List.mem_append_left _ (by simp [broken]))
    · -- Without the ending the name would be that of an always-link library itself.
      rw [String.append_empty] at filename
      have own : FileType.isAlwaysLinkLibrary ("lib" ++ libraryName file.filename) = true :=
        FileType.isAlwaysLinkLibrary_append (by decide) h
      rw [← filename] at own
      exact absurd own static
  · exact absurd (FileType.isAlwaysLinkLibrary_filename h) static

namespace LinkerInput

/-- The tokens of an input that get a region of their own: that of the file if its path is the path
of an always-link library, the name of a shared library that ends like one, and the paths of members
that do. -/
inductive IsWrapped (tc : Toolchain) (input : LinkerInput) : String → Prop
  | file {file : Artifact} (hf : input.artifact = some file) (apart : ¬input.IsExpanded tc)
      (alwaysLink : FileType.isAlwaysLinkLibrary file.execPath = true) :
      IsWrapped tc input (input.ownToken file)
  | library {file : Artifact} {name : String} (hf : input.artifact = some file)
      (dynamic : file.isDynamicLibrary = true) (hn : file.filename = "lib" ++ name ++ ".so")
      (line : '\n' ∉ name.toList) (alwaysLink : FileType.isAlwaysLinkLibrary name = true) :
      IsWrapped tc input ("-l" ++ name)
  | member {member : Artifact} (expanded : input.IsExpanded tc)
      (hm : some member ∈ input.members)
      (alwaysLink : FileType.isAlwaysLinkLibrary member.execPath = true) :
      IsWrapped tc input member.execPath

variable {tc : Toolchain} {input : LinkerInput} {token : String}

/-- The mark of a stand-in does not matter. -/
theorem isAlwaysLinkLibrary_ownToken (input : LinkerInput) (file : Artifact) :
    FileType.isAlwaysLinkLibrary (input.ownToken file) =
      FileType.isAlwaysLinkLibrary file.execPath := by
  cases input with
  | plain | archive => rfl
  | fake => exact Action.isAlwaysLinkLibrary_fakeObjectMark _

/-- Those are the tokens that read like always-link libraries. -/
theorem isWrapped_iff : input.IsWrapped tc token ↔
    token ∈ input.tokens tc ∧ FileType.isAlwaysLinkLibrary token = true := by
  constructor
  · rintro (⟨hf, apart, alwaysLink⟩ | ⟨hf, dynamic, hn, line, alwaysLink⟩ |
      ⟨expanded, hm, alwaysLink⟩)
    · have static := FileType.isDynamicLibrary_of_isAlwaysLinkLibrary
        (FileType.isAlwaysLinkLibrary_filename alwaysLink)
      rw [tokens_of_static hf static apart]
      exact ⟨.head _, by rwa [isAlwaysLinkLibrary_ownToken]⟩
    · rw [tokens_of_dynamic hf dynamic, Action.dynamicToken_eq hn line]
      exact ⟨.head _, FileType.isAlwaysLinkLibrary_append (by decide) alwaysLink⟩
    · rw [tokens_of_isExpanded expanded]
      refine ⟨.tail _ (List.mem_append_left _ ?_), alwaysLink⟩
      exact List.mem_map_of_mem (List.mem_filterMap.2 ⟨_, hm, rfl⟩)
  · rintro ⟨ht, alwaysLink⟩
    obtain ⟨expanded, rfl | rfl | ⟨member, hm, rfl⟩⟩ |
      ⟨apart, file, hf, ⟨dynamic, rfl⟩ | ⟨-, rfl⟩⟩ := mem_tokens_cases ht
    · exact absurd alwaysLink (by decide)
    · exact absurd alwaysLink (by decide)
    · exact .member expanded hm alwaysLink
    · obtain ⟨name, hn, line, own⟩ := exists_name_of_dynamicToken dynamic alwaysLink
      rw [Action.dynamicToken_eq hn line]
      exact .library hf dynamic hn line own
    · rw [isAlwaysLinkLibrary_ownToken] at alwaysLink
      exact .file hf apart alwaysLink

end LinkerInput

namespace Action

variable {a : Action} {arguments result : List String} {includeLinkopts : Bool}

/-- **What a link wraps.** Let no file and no linkopt be named like a marker. In a link that does
not link everything whole, an opening marker stands right in front of a token of an input that reads
like an always-link library, with the closing marker right behind, and every such token stands so:
the path of an always-link library, but also the name of a library whose file name ends in `.lo.so`
and the path of an always-link member of an archive that is expanded. Without names and members of
that kind, only always-link libraries are wrapped. -/
theorem wrapped_of_link (link : a.target.isStaticLibrary = false)
    (named : ∀ file ∈ a.inputFiles, a.wholeArchiveMarkers.IsUnmarked file.execPath)
    (options : ∀ option ∈ a.linkopts, a.wholeArchiveMarkers.IsUnmarked option)
    (success : a.appendInputOptions arguments false includeLinkopts = .ok result) :
    ∃ added, result = arguments ++ added ∧
      (∀ before after, added = before ++ a.wholeArchiveMarkers.opening :: after →
        ∃ input ∈ a.inputs, ∃ token rest, input.IsWrapped a.toolchain token ∧
          after = token :: a.wholeArchiveMarkers.closing :: rest) ∧
      (∀ input ∈ a.inputs, ∀ token, input.IsWrapped a.toolchain token →
        [a.wholeArchiveMarkers.opening, token, a.wholeArchiveMarkers.closing] <:+: added) ∧
      ((∀ file ∈ a.sharedLibraries, ∀ name, file.filename = "lib" ++ name ++ ".so" →
          FileType.isAlwaysLinkLibrary name = false) →
        (∀ input ∈ a.inputs, input.IsExpanded a.toolchain →
          ∀ member, some member ∈ input.members →
            FileType.isAlwaysLinkLibrary member.execPath = false) →
        ∀ before after, added = before ++ a.wholeArchiveMarkers.opening :: after →
          ∃ input ∈ a.inputs, ∃ file rest, input.artifact = some file ∧
            file.isDynamicLibrary = false ∧
            FileType.isAlwaysLinkLibrary file.filename = true ∧
            after = input.ownToken file :: a.wholeArchiveMarkers.closing :: rest) := by
  obtain ⟨plan, linked, runtime, hp, contributes, rfl⟩ := appendInputOptions_eq_ok success
  have unmarked := contributes.areUnmarked_arrangedPieces hp named options false includeLinkopts
  have regions (tokens : List String) :
      .region tokens ∈ a.arrangedPieces plan linked runtime false includeLinkopts ↔
        ∃ input ∈ a.inputs, ∃ token, input.IsWrapped a.toolchain token ∧ tokens = [token] := by
    rw [region_mem_arrangedPieces_iff, contributes.flatMap_tokens_append]
    simp only [link, true_and, List.mem_flatMap, LinkerInput.isWrapped_iff]
    constructor
    · rintro ⟨token, ⟨input, hi, ht⟩, alwaysLink, rfl⟩
      exact ⟨input, hi, token, ⟨ht, alwaysLink⟩, rfl⟩
    · rintro ⟨input, hi, token, ⟨ht, alwaysLink⟩, rfl⟩
      exact ⟨token, ⟨input, hi, ht⟩, alwaysLink, rfl⟩
  rw [contributes.arrange_eq_flatMap_words]
  have opened (before after : List String)
      (h : (a.arrangedPieces plan linked runtime false includeLinkopts).flatMap
        (·.words a.wholeArchiveMarkers) = before ++ a.wholeArchiveMarkers.opening :: after) :
      ∃ input ∈ a.inputs, ∃ token rest, input.IsWrapped a.toolchain token ∧
        after = token :: a.wholeArchiveMarkers.closing :: rest := by
    obtain ⟨tokens, rest, region, rfl⟩ :=
      WholeArchiveMarkers.exists_region_of_opening a.closing_ne_opening unmarked h
    obtain ⟨input, hi, token, wrapped, rfl⟩ := (regions _).1 region
    exact ⟨input, hi, token, rest, wrapped, rfl⟩
  refine ⟨_, rfl, opened, ?_, ?_⟩
  · intro input hi token wrapped
    exact WholeArchiveMarkers.words_infix_of_mem ((regions _).2 ⟨input, hi, token, wrapped, rfl⟩)
  · intro names members before after h
    obtain ⟨input, hi, token, rest, wrapped, rfl⟩ := opened before after h
    refine ⟨input, hi, ?_⟩
    cases wrapped with
    | file hf apart alwaysLink =>
      have own := FileType.isAlwaysLinkLibrary_filename alwaysLink
      exact ⟨_, rest, hf, FileType.isDynamicLibrary_of_isAlwaysLinkLibrary own, own, rfl⟩
    | library hf dynamic hn line alwaysLink =>
      have shared := mem_sharedLibraries_iff_input.2 ⟨dynamic, input, hi, hf⟩
      exact absurd (alwaysLink.symm.trans (names _ shared _ hn)) (by decide)
    | member expanded hm alwaysLink =>
      exact absurd (alwaysLink.symm.trans (members input hi expanded _ hm)) (by decide)

/-- An executable. -/
def hookOutput : Artifact :=
  ⟨"buck-out/bin/hook/runner", "buck-out/bin", by decide, by decide +kernel⟩

/-- An always-link library. -/
def hookLibrary : Artifact := ⟨"buck-out/bin/hook/libhooks.pic.lo", "", by decide, .inl rfl⟩

/-- An archive whose members are passed in its place. -/
def hookArchive : Artifact := ⟨"buck-out/bin/hook/libcalls.a", "", by decide, .inl rfl⟩

/-- A member that is an object. -/
def hookObject : Artifact := ⟨"buck-out/bin/hook/calls.o", "", by decide, .inl rfl⟩

/-- A shared library whose name ends like that of an always-link library. -/
def hookShared : Artifact := ⟨"buck-out/bin/_solib_k8/libfoo.lo.so", "", by decide, .inl rfl⟩

/-- The link of the executable with some inputs. -/
def hookAction (linkerInputs : List LinkerInput) : Action where
  toolchain := { archiveType := .startEndLib }
  ownerLabel := "//hook:runner"
  target := .executable
  staticness := .dynamic
  output := some hookOutput
  linkerInputs

/-- An archive and an always-link library. -/
def hookInputs : List LinkerInput :=
  [.archive (some hookArchive) [some hookObject], .plain (some hookLibrary)]

theorem wrapped_hookLibrary : ∃ added,
    (hookAction hookInputs).appendInputOptions ["gcc"] false true = .ok (["gcc"] ++ added) ∧
      ["-Wl,-whole-archive", "buck-out/bin/hook/libhooks.pic.lo", "-Wl,-no-whole-archive"] <:+:
        added ∧
      ∀ before after, added = before ++ "-Wl,-whole-archive" :: after →
        ∃ rest, after = "buck-out/bin/hook/libhooks.pic.lo" :: "-Wl,-no-whole-archive" :: rest := by
  have success : (hookAction hookInputs).appendInputOptions ["gcc"] false true = .ok ["gcc",
      "-Wl,--start-lib", "buck-out/bin/hook/calls.o", "-Wl,--end-lib", "-Wl,-whole-archive",
      "buck-out/bin/hook/libhooks.pic.lo", "-Wl,-no-whole-archive"] := by
    decide +kernel
  obtain ⟨added, result, -, wrapped, only⟩ :=
    wrapped_of_link rfl (by decide +kernel) (by decide) success
  have own : LinkerInput.IsWrapped (hookAction hookInputs).toolchain (.plain (some hookLibrary))
      (LinkerInput.ownToken (.plain (some hookLibrary)) hookLibrary) := by
    refine .file rfl ?_ (by decide)
    rintro ⟨-, expandable⟩
    cases expandable
  refine ⟨added, result ▸ success, wrapped _ (.tail _ (.head _)) _ own, ?_⟩
  intro before after opening
  have names : (hookAction hookInputs).sharedLibraries = [] := by decide +kernel
  obtain ⟨input, hi, file, rest, hf, -, alwaysLink, rfl⟩ := only (by simp [names])
    (by
      intro input hi _ member hm
      rcases List.mem_cons.1 hi with rfl | hi
      · cases List.mem_singleton.1 hm
        decide
      · cases List.mem_singleton.1 hi
        cases hm) before after opening
  refine ⟨rest, ?_⟩
  rcases List.mem_cons.1 hi with rfl | hi
  · cases hf
    exact absurd alwaysLink (by decide)
  · cases List.mem_singleton.1 hi
    cases hf
    rfl

/-- A shared library and nothing else. -/
def hookSharedInputs : List LinkerInput := [.plain (some hookShared)]

/-- The name of a shared library is wrapped too, so not only always-link libraries are. -/
theorem wrapped_hookShared :
    (hookAction hookSharedInputs).target.isStaticLibrary = false ∧
      (∀ file ∈ (hookAction hookSharedInputs).inputFiles,
        (hookAction hookSharedInputs).wholeArchiveMarkers.IsUnmarked file.execPath) ∧
      (hookAction hookSharedInputs).linkopts = [] ∧
      ∃ result, (hookAction hookSharedInputs).appendInputOptions [] false false = .ok result ∧
        result = ["-Wl,-rpath,$ORIGIN/../_solib_k8/", "-Lbuck-out/bin/_solib_k8",
          "-Wl,-whole-archive", "-lfoo.lo", "-Wl,-no-whole-archive"] ∧
        ¬∀ before after, result = before ++ "-Wl,-whole-archive" :: after →
          ∃ input ∈ (hookAction hookSharedInputs).inputs, ∃ file rest,
            input.artifact = some file ∧ file.isDynamicLibrary = false ∧
            FileType.isAlwaysLinkLibrary file.filename = true ∧
            after = input.ownToken file :: "-Wl,-no-whole-archive" :: rest := by
  have success : (hookAction hookSharedInputs).appendInputOptions [] false false = .ok [
      "-Wl,-rpath,$ORIGIN/../_solib_k8/", "-Lbuck-out/bin/_solib_k8", "-Wl,-whole-archive",
      "-lfoo.lo", "-Wl,-no-whole-archive"] := by
    decide +kernel
  refine ⟨rfl, by decide +kernel, rfl, _, success, rfl, fun only => ?_⟩
  obtain ⟨input, hi, file, rest, hf, static, -⟩ :=
    only ["-Wl,-rpath,$ORIGIN/../_solib_k8/", "-Lbuck-out/bin/_solib_k8"] _ rfl
  cases List.mem_singleton.1 hi
  cases hf
  exact absurd static (by decide)

end Action
end LinkSynthesis

import LinkSynthesis.Command.LibrarySearch
import LinkSynthesis.Proofs.Command.WrappedTokens

/-!
# Names of libraries read back

What the linker makes of the token of a shared library. A plain name `libname.so` is passed as
`-lname`, and the linker gets the file name back from it by putting `lib` and `.so` around the name
(`token_of_library`). That fails for two kinds of plain names: in `lib.so` nothing is left for the
option, so it takes the next argument instead, and behind a line break at the end `.so` is not
taken from the name.
-/

namespace LinkSynthesis

/-! ### Names that an option can stand for -/

namespace FileType

variable {filename : String}

/-- There is a text between `lib` and `.so`, and no line break at the end. -/
def IsLinkable (filename : String) : Prop :=
  filename ≠ "lib.so" ∧ filename.toList.getLast? ≠ some '\n'

/-- Such a name is the one that the option is made from, with `lib` and `.so` around it. -/
theorem isLinkable_iff (shared : isSharedLibrary filename = true)
    (lib : "lib".toList <+: filename.toList) :
    IsLinkable filename ↔
      libraryName filename ≠ "" ∧ "lib" ++ libraryName filename ++ ".so" = filename := by
  constructor
  · rintro ⟨apart, unbroken⟩
    have ending : ".so".toList <:+ filename.toList := by
      have own := (isSharedLibrary_iff.1 shared).2
      rwa [Text.Pattern.lineText, if_neg unbroken] at own
    have whole := eq_append_libraryName lib
    rw [if_pos (List.isSuffixOf_iff_suffix.2 ending)] at whole
    refine ⟨fun empty => apart ?_, whole.symm⟩
    rw [whole, empty]
    rfl
  · rintro ⟨named, whole⟩
    constructor
    · rintro rfl
      exact named (by decide)
    · rw [← whole, String.toList_append, List.getLast?_append]
      rintro ⟨⟩

/-- A line break at the end stays in the name, with the ending in front of it. -/
theorem eq_append_libraryName_of_newline (lib : "lib".toList <+: filename.toList)
    (broken : filename.toList.getLast? = some '\n') :
    filename = "lib" ++ libraryName filename := by
  have ending : ¬".so".toList <:+ filename.toList := by
    rintro ⟨front, h⟩
    rw [← h, List.getLast?_append] at broken
    cases broken
  have whole := eq_append_libraryName lib
  rwa [if_neg (mt List.isSuffixOf_iff_suffix.1 ending), String.append_empty] at whole

end FileType

namespace Action
open LibrarySearch

variable {a : Action} {plan : RpathPlan} {isRuntime : Bool} {input : LinkerInput} {c : Contribution}
  {file : Artifact}

/-! ### Tokens -/

/-- An option finds the file, and no more than that, just if it has a name and the name is that of
the file. -/
theorem searchedFiles_cons_iff (name filename : String) :
    (∀ rest, searchedFiles (("-l" ++ name) :: rest) = filename :: searchedFiles rest) ↔
      name ≠ "" ∧ "lib" ++ name ++ ".so" = filename := by
  constructor
  · intro reads
    have named : name ≠ "" := by
      rintro rfl
      cases reads []
    have own := reads []
    rw [searchedFiles_cons_library named] at own
    exact ⟨named, (List.cons.inj own).1⟩
  · rintro ⟨named, rfl⟩ rest
    exact searchedFiles_cons_library named rest

/-- **What the token of a library stands for.** A shared library contributes one token. For a plain
name it is `-l` and a name. The file name is that name with `lib` and `.so` around it, and the linker
looks for that file and reads on with the next argument, just if something stands between `lib` and
`.so` and no line break at the end. Otherwise `lib.so` is passed as `-l`, which takes the next
argument for its name, and a name with a line break at the end without nothing but its `lib`. A
library of another form is passed by its path. -/
theorem token_of_library (contributed : a.contributionOf plan isRuntime input = .ok c)
    (hf : input.artifact = some file) (dynamic : file.isDynamicLibrary = true) :
    ∃ token, c.tokens = [token] ∧
      (FileType.isSharedLibrary file.filename = false → token = file.execPath) ∧
      (FileType.isSharedLibrary file.filename = true →
        (FileType.IsLinkable file.filename ↔ ∃ name, name ≠ "" ∧ token = "-l" ++ name ∧
          "lib" ++ name ++ ".so" = file.filename) ∧
        (FileType.IsLinkable file.filename ↔
          ∀ rest, searchedFiles (token :: rest) = file.filename :: searchedFiles rest) ∧
        (file.filename = "lib.so" → token = "-l" ∧ ∀ next rest,
          searchedFiles (token :: next :: rest) = ("lib" ++ next ++ ".so") :: searchedFiles rest) ∧
        (file.filename.toList.getLast? = some '\n' →
          ∃ rest, file.filename = "lib" ++ rest ∧ token = "-l" ++ rest)) := by
  obtain ⟨-, rfl⟩ := contributionOf_of_dynamic contributed hf dynamic
  refine ⟨dynamicToken file, rfl, fun other => ?_, fun shared => ?_⟩
  · rw [dynamicToken, other]
    rfl
  · have token : dynamicToken file = "-l" ++ libraryName file.filename := if_pos shared
    have lib : "lib".toList <+: file.filename.toList := by
      rw [Artifact.isDynamicLibrary, FileType.isDynamicLibrary, Bool.and_eq_true] at dynamic
      exact List.isPrefixOf_iff_prefix.1 dynamic.2
    rw [token, FileType.isLinkable_iff shared lib, searchedFiles_cons_iff]
    refine ⟨?_, Iff.rfl, fun whole => ?_, fun broken => ?_⟩
    · constructor
      · rintro ⟨named, whole⟩
        exact ⟨_, named, rfl, whole⟩
      · rintro ⟨name, named, same, whole⟩
        obtain rfl := (String.append_right_inj "-l").1 same
        exact ⟨named, whole⟩
    · have empty : libraryName file.filename = "" := by
        rw [whole]
        decide
      rw [empty]
      exact ⟨rfl, searchedFiles_cons_cons⟩
    · exact ⟨_, FileType.eq_append_libraryName_of_newline lib broken, rfl⟩

/-- An executable. -/
def playerOutput : Artifact :=
  ⟨"buck-out/bin/media/player", "buck-out/bin", by decide, by decide +kernel⟩

/-- A library whose name holds the texts that are taken from it once more. -/
def playerCodec : Artifact := ⟨"buck-out/bin/_solib_k8/liblib.so.so", "", by decide, .inl rfl⟩

/-- A library without a name of its own. -/
def playerCore : Artifact := ⟨"buck-out/bin/_solib_k8/lib.so", "", by decide, .inl rfl⟩

/-- The link of the executable with a library. -/
def playerAction (library : Artifact) : Action where
  toolchain := {}
  ownerLabel := "//media:player"
  target := .executable
  staticness := .dynamic
  output := some playerOutput
  linkerInputs := [.plain (some library)]
  linkopts := ["-lm"]

/-- The search paths of the executable. -/
def playerPlan : RpathPlan where
  solibDir := Path.parse "buck-out/bin/_solib_k8"
  runtimeSolibDir := none
  root := "-Wl,-rpath,$ORIGIN/../_solib_k8/"

theorem token_playerCodec : ∃ c,
    (playerAction playerCodec).contributionOf playerPlan false (.plain (some playerCodec)) = .ok c ∧
      c.tokens = ["-llib.so"] ∧
      ∀ rest, searchedFiles ("-llib.so" :: rest) = "liblib.so.so" :: searchedFiles rest := by
  have contributed : (playerAction playerCodec).contributionOf playerPlan false
      (.plain (some playerCodec)) = .ok {
        tokens := ["-llib.so"]
        searchOptions := ["-Lbuck-out/bin/_solib_k8"]
        needsRoot := true } := by
    decide +kernel
  obtain ⟨token, own, -, plain⟩ := token_of_library contributed rfl (by decide +kernel)
  obtain ⟨-, reads, -⟩ := plain (by decide +kernel)
  obtain rfl := List.singleton_inj.1 own
  have linkable : FileType.IsLinkable playerCodec.filename := by
    constructor <;> decide +kernel
  have filename : playerCodec.filename = "liblib.so.so" := by decide +kernel
  exact ⟨_, contributed, rfl, filename ▸ reads.1 linkable⟩

/-- The option of a library `lib.so` has no name, and the linker takes the next argument for one. -/
theorem token_playerCore :
    playerCore.isDynamicLibrary = true ∧ FileType.isSharedLibrary playerCore.filename = true ∧
      (playerAction playerCore).appendInputOptions [] false true = .ok [
        "-Wl,-rpath,$ORIGIN/../_solib_k8/", "-Lbuck-out/bin/_solib_k8", "-l", "-lm"] ∧
      (∀ name, name ≠ "" → "lib" ++ name ++ ".so" ≠ playerCore.filename) ∧
      searchedFiles ["-Wl,-rpath,$ORIGIN/../_solib_k8/", "-Lbuck-out/bin/_solib_k8", "-l", "-lm"] =
        ["lib-lm.so"] := by
  refine ⟨by decide +kernel, by decide +kernel, by decide +kernel, fun name named whole => ?_, ?_⟩
  · have filename : playerCore.filename = "lib" ++ "" ++ ".so" := by decide +kernel
    rw [filename, String.append_left_inj, String.append_right_inj] at whole
    exact named whole
  · decide +kernel

end Action
end LinkSynthesis

import LinkSynthesis.Command.InputOptions
import LinkSynthesis.Path.Resolve

/-!
# Library search

What the options of a link mean to those who search for shared libraries. The linker looks for a
library of a `-l` option in the directories of the `-L` options, in their order. The loader looks
in the entries of the run path options, where the name of the origin stands for the directory of
the output.
-/

namespace LinkSynthesis.LibrarySearch

/-- The text behind a mark at its front. -/
def behind? (mark text : String) : Option String :=
  if mark.toList.isPrefixOf text.toList then some (.ofList (text.toList.drop mark.length)) else none

/-! ### The linker -/

/-- The directories that the linker searches. -/
def linkerDirs (options : List String) : List Path :=
  options.filterMap fun option => (behind? "-L" option).map .parse

/-- The file that the linker takes for `-l` and a name: the first that exists. -/
def findLibrary? (exists? : Path → Bool) (options : List String) (name : String) : Option Path :=
  let file := Path.parse ("lib" ++ name ++ ".so")
  ((linkerDirs options).map (·.join file)).find? exists?

/-- The files that the linker looks for by name, in the order of its arguments. The name of a library
is what stands behind `-l`, or else the next argument. -/
def searchedFiles : List String → List String
  | [] => []
  | argument :: rest =>
    match behind? "-l" argument with
    | none => searchedFiles rest
    | some name =>
      if name ≠ "" then ("lib" ++ name ++ ".so") :: searchedFiles rest
      else match rest with
        | [] => []
        | name :: rest => ("lib" ++ name ++ ".so") :: searchedFiles rest

/-! ### The loader -/

/-- The directory of an entry of a run path. -/
def entryDir (outputDir : Path) (entry : String) : Path :=
  match behind? "$ORIGIN/" entry, behind? "$EXEC_ORIGIN/" entry with
  | some rest, _ => outputDir.resolveBelow rest
  | _, some rest => outputDir.resolveBelow rest
  | none, none => (Path.parse entry).resolve

/-- The directories that an option makes the loader search; only a run path option has any. -/
def loaderDirs (outputDir : Path) (option : String) : List Path :=
  match behind? "-Wl,-rpath," option with
  | some entries => (entries.toList.splitOn ':').map fun entry => entryDir outputDir (.ofList entry)
  | none => []

/-! ### Small facts -/

theorem behind?_append (mark text : String) : behind? mark (mark ++ text) = some text := by
  have h : mark.toList.isPrefixOf (mark.toList ++ text.toList) = true :=
    List.isPrefixOf_iff_prefix.2 (List.prefix_append _ _)
  simp [behind?, h, ← String.length_toList]

theorem searchedFiles_cons_library {name : String} (named : name ≠ "") (rest : List String) :
    searchedFiles (("-l" ++ name) :: rest) = ("lib" ++ name ++ ".so") :: searchedFiles rest := by
  rw [searchedFiles.eq_def]
  simp only [behind?_append, if_pos named]

theorem searchedFiles_cons_cons (name : String) (rest : List String) :
    searchedFiles ("-l" :: name :: rest) = ("lib" ++ name ++ ".so") :: searchedFiles rest := by
  have alone : behind? "-l" "-l" = some "" := behind?_append "-l" ""
  rw [searchedFiles, alone]
  rfl

end LinkSynthesis.LibrarySearch

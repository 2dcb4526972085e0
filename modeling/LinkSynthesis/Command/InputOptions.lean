import LinkSynthesis.RpathPlan

/-!
# Input options

The inputs of an action as linker arguments. Order matters to symbol resolution, so inputs keep
their order; the options that say where shared libraries are found come once each, in front, in
the order of first use. Each input contributes on its own: tokens, search options, and whether it
needs the root of the search paths.
-/

namespace LinkSynthesis

/-- The arguments between which every archive member is linked, needed or not. -/
structure WholeArchiveMarkers where
  opening : String
  closing : String
deriving DecidableEq

/-- What one input adds to the arguments. -/
structure Contribution where
  /-- The arguments in place of the input. -/
  tokens : List String
  /-- Where the linker and the output find the library. -/
  searchOptions : List String := []
  /-- The library lies directly in a directory that the root search path covers. -/
  needsRoot : Bool := false
deriving DecidableEq

/-- The name by which `-l` finds a library: the filename without `lib` in front and `.so` behind. -/
def libraryName (filename : String) : String :=
  let text := filename.toList
  let text := if "lib".toList.isPrefixOf text then text.drop 3 else text
  let text := if ".so".toList.isSuffixOf text then text.take (text.length - 3) else text
  .ofList text

/-- The mark in front of a stand-in object. -/
def fakeObjectMark : String := "fake:"

namespace Action

/-- The markers of the action's linker. The linker of macOS has no exact counterpart. -/
def wholeArchiveMarkers (a : Action) : WholeArchiveMarkers :=
  if a.toolchain.targetLibc = "macosx" then ⟨"-all_load", "-noall_load"⟩
  else ⟨"-Wl,-whole-archive", "-Wl,-no-whole-archive"⟩

/-- The output is a shared object, by its kind or by request. -/
def isSharedLink (a : Action) : Bool :=
  a.target = .dynamicLibrary || a.linkopts.contains "-shared" ||
    a.toolchain.linkFlags.contains "-shared"

/-- Every linker input is linked whole: a shared object that is linked statically must carry all the
code it depends on, not only what its own objects refer to. -/
def needsWholeArchive (a : Action) : Bool :=
  (a.nativeDeps || a.toolchain.legacyWholeArchive) && a.staticness ≠ .dynamic && a.isSharedLink

/-- The members of an archive are passed in its place. -/
def usesStartEndLib (a : Action) : LinkerInput → Except AssemblyError Bool
  | .archive artifact members =>
    if a.toolchain.archiveType = .startEndLib then do
      let archive ← Artifact.require artifact
      return FileType.isArchive archive.filename && !members.isEmpty
    else .ok false
  | _ => .ok false

/-- The tokens of an input that is not linked dynamically. -/
def staticTokens (a : Action) (input : LinkerInput) : Except AssemblyError (List String) := do
  let file ← Artifact.require input.artifact
  if ← a.usesStartEndLib input then
    let members ← input.members.mapM Artifact.require
    return "-Wl,--start-lib" :: (members.map (·.execPath) ++ ["-Wl,--end-lib"])
  else match input with
    | .fake _ => return [fakeObjectMark ++ file.execPath]
    | _ => return [file.execPath]

/-- The token of a library that is linked dynamically. `-l` finds plain `.so` names only; any other
library is named by its path. -/
def dynamicToken (library : Artifact) : String :=
  if FileType.isSharedLibrary library.filename then "-l" ++ libraryName library.filename
  else library.execPath

/-- The contribution of a library that is linked dynamically. -/
def dynamicContribution (plan : RpathPlan) (library : Artifact) (needsRoot : Bool) :
    Except AssemblyError Contribution := do
  let rpath ← plan.libraryOption library.parent
  return {
    tokens := [dynamicToken library]
    searchOptions := rpath.toList ++ ["-L" ++ library.parent.toString]
    needsRoot }

/-- The contribution of a linker input. A shared library must lie under the solib directory. -/
def linkerContribution (a : Action) (plan : RpathPlan) (input : LinkerInput) :
    Except AssemblyError Contribution := do
  let file ← Artifact.require input.artifact
  if file.isDynamicLibrary then
    if file.parent.isUnder plan.solibDir then
      dynamicContribution plan file (file.parent = plan.solibDir)
    else throw (.outsideSolib file.execPath plan.solibDir)
  else return { tokens := ← a.staticTokens input }

/-- The contribution of a runtime input. A shared library may also lie in the runtime directory. -/
def runtimeContribution (a : Action) (plan : RpathPlan) (input : LinkerInput) :
    Except AssemblyError Contribution := do
  let file ← Artifact.require input.artifact
  if file.isDynamicLibrary then
    let inRuntimeDir : Bool := some file.parent = plan.runtimeSolibDir
    if file.parent.isUnder plan.solibDir || inRuntimeDir then
      dynamicContribution plan file (file.parent = plan.solibDir || inRuntimeDir)
    else throw (.outsideSolib file.execPath plan.solibDir)
  else return { tokens := ← a.staticTokens input }

/-- Puts markers around a token that names an always-link library. -/
def wrapAlwaysLink (markers : WholeArchiveMarkers) (token : String) : List String :=
  if FileType.isAlwaysLinkLibrary token then [markers.opening, token, markers.closing]
  else [token]

/-- The contributions of the linker inputs and of the runtime inputs as one list of options. With
`whole`, one marked region holds all linker inputs and the runtime inputs follow it, so that the
runtime is never linked whole; without, each always-link library of a link has a region of its own.
Linkopts come last, as they may hold groups of libraries. -/
def arrange (a : Action) (plan : RpathPlan) (linked runtime : List Contribution)
    (whole includeLinkopts : Bool) : List String :=
  let markers := a.wholeArchiveMarkers
  let root := if (linked ++ runtime).any (·.needsRoot) then [plan.root] else []
  let search := ((linked ++ runtime).flatMap (·.searchOptions)).eraseDups
  let linkedTokens := linked.flatMap (·.tokens)
  let runtimeTokens := runtime.flatMap (·.tokens)
  let opening := if whole then [markers.opening] else []
  let inputs :=
    if whole then linkedTokens ++ markers.closing :: runtimeTokens
    else if a.target.isStaticLibrary then linkedTokens ++ runtimeTokens
    else (linkedTokens ++ runtimeTokens).flatMap (wrapAlwaysLink markers)
  opening ++ plan.runtimeOption.toList ++ root ++ search ++ inputs ++
    if includeLinkopts then a.linkopts else []

/-- The input options: every input contributes, and the contributions are arranged. -/
def inputOptions (a : Action) (whole includeLinkopts : Bool) :
    Except AssemblyError (List String) := do
  let plan ← a.rpathPlan
  let linked ← a.linkerInputs.mapM (a.linkerContribution plan)
  let runtime ← a.runtimeInputs.mapM (a.runtimeContribution plan)
  return a.arrange plan linked runtime whole includeLinkopts

/-- The input options behind some arguments. -/
def appendInputOptions (a : Action) (arguments : List String) (whole includeLinkopts : Bool) :
    Except AssemblyError (List String) :=
  (a.inputOptions whole includeLinkopts).map (arguments ++ ·)

end Action
end LinkSynthesis

import LinkSynthesis.Action
import LinkSynthesis.Shell.Quote

/-!
# Linkstamp compiles

Linkstamps are compiled before the link, each to a known object path. What changes from build to
build is not on these command lines; it comes from the build info headers.
-/

namespace LinkSynthesis.Action

/-- The label that the stamps carry. A shared native library is named by its own path, as it is the
same for every target that asks for it. -/
def stampLabel (a : Action) : Except AssemblyError String :=
  if a.isSharedNativeLibrary then (Artifact.require a.output).map (·.execPath)
  else return a.ownerLabel

/-- The definition of a macro as a string. -/
def stringMacro (name value : String) : String := "-D" ++ name ++ "=\"" ++ value ++ "\""

/-- The options of every linkstamp compile of the action. -/
def stampFlags (a : Action) (label : String) (output : Artifact) (headers : List Artifact) :
    List String :=
  let tc := a.toolchain
  headers.flatMap (fun header => ["-include", header.execPath]) ++
    [stringMacro "G3_VERSION_INFO" label, stringMacro "G3_TARGET_NAME" label,
     stringMacro "G3_BUILD_TARGET" output.execPath, stringMacro "GPLATFORM" tc.description,
     "-I."] ++
    (tc.sysroot.map ("--sysroot=" ++ ·)).toList ++
    tc.compilerFlags.evaluate a.features ++ tc.cFlags ++
    tc.unfilteredCompilerFlags.evaluate a.features ++
    (if a.target = .dynamicLibrary ∧ tc.needsPic then ["-fPIC"] else []) ++
    (tc.fdoBuildStamp.map (stringMacro "BUILD_FDO_TYPE")).toList

/-- The words between the compiler and the output option in the compile of one linkstamp. -/
def stampOptions (a : Action) (label : String) (output source : Artifact)
    (headers : List Artifact) : List String :=
  a.stampFlags label output headers ++ ["-c", source.execPath]

/-- The compile of one linkstamp as a shell command. All words are quoted, but the text in front of
the object path is taken as it is. -/
def stampCommand (a : Action) (objectPrefix label : String) (output : Artifact)
    (headers : List Artifact) (stamp : Linkstamp) : Except AssemblyError String := do
  let source ← Artifact.require stamp.source
  let object ← Artifact.require stamp.object
  return Shell.quote a.toolchain.compiler ++ " " ++
    Shell.join (a.stampOptions label output source headers) ++ " -o " ++ objectPrefix ++
    Shell.quote object.execPath

/-- The compiles of all linkstamps, in their order. -/
def stampCommands (a : Action) (objectPrefix : String) : Except AssemblyError (List String) := do
  if a.linkstamps.isEmpty then return []
  let label ← a.stampLabel
  let headers ← a.buildInfoHeaders.mapM Artifact.require
  let output ← Artifact.require a.output
  a.linkstamps.mapM (a.stampCommand objectPrefix label output headers)

end LinkSynthesis.Action

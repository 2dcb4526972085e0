import LinkSynthesis.Command.InputOptions

/-!
# Raw commands

The arguments of the compiler, as linker, or of the archiver: one link or archive step without the
linkstamps compiled for it.
-/

namespace LinkSynthesis

/-- Links by its arguments from the fourth on, then makes the interface library (third argument)
from the output (second) with the builder (first). -/
def interfaceScript : String :=
  "build_iface_so=\"$0\"; impl=\"$1\"; iface=\"$2\"; cmd=\"$3\"; shift 3; " ++
    "\"$cmd\" \"$@\" && \"$build_iface_so\" \"$impl\" \"$iface\""

namespace Action

/-- The option that asks for symbol counts. -/
def symbolCountsOption (a : Action) : List String :=
  match a.symbolCountsOutput with
  | some counts => ["-Wl,--print-symbol-counts=" ++ counts.execPath]
  | none => []

/-- Where the output goes. A mostly static executable that nobody keeps leaves only the list of the
files that it depends on. -/
def outputOptions (a : Action) (output : Artifact) : List String :=
  if a.staticness = .mostlyStatic ∧ a.target = .executable ∧ a.toolchain.skipStaticOutputs then
    ["-o", "/dev/null", "-MMD", "-MF", output.execPath]
  else ["-o", output.execPath]

/-- The arguments of the compiler as linker. The defaults of the toolchain come after the linkopts
of the target. -/
def compilerCommand (a : Action) : Except AssemblyError (List String) := do
  let tc := a.toolchain
  let objects ← a.linkstampObjects.mapM Artifact.require
  let output ← Artifact.require a.output
  let inputs ← a.inputOptions a.needsWholeArchive true
  return tc.compiler :: a.symbolCountsOption ++
    (if a.target = .dynamicLibrary then ["-shared"] else []) ++
    objects.map (·.execPath) ++ a.outputOptions output ++ inputs ++
    tc.linkOptions a.staticness a.features a.isSharedLink ++
    (if tc.coverage then ["-lgcov"] else []) ++
    (if a.target = .executable ∧ tc.forcePic then ["-pie"] else []) ++
    tc.linkFlags ++ tc.fdoLinkFlags

/-- The arguments that make the interface library along with a dynamic library. -/
def interfaceWrapper (a : Action) : Except AssemblyError (List String) :=
  match a.interfaceOutput with
  | none => return []
  | some interface => do
    let builder ← Artifact.require a.interfaceSoBuilder
    let output ← Artifact.require a.output
    return [a.toolchain.shExecutable, "-c", interfaceScript, builder.execPath, output.execPath,
      interface.execPath]

/-- The arguments of the archiver. -/
def archiverCommand (a : Action) : Except AssemblyError (List String) := do
  let tc := a.toolchain
  let output ← Artifact.require a.output
  let inputs ← a.inputOptions false false
  return tc.ar :: tc.arFlagsFor (tc.archiveType = .thin) ++ output.execPath :: inputs

/-- The option that asks for an index of debug information that lies outside the output. -/
def fissionOption (a : Action) : List String :=
  if a.toolchain.useFission then ["-Wl,--gdb-index"] else []

/-- The raw command of the action. A dynamic library is position independent as it is, and `-pie`
does not go with it. -/
def rawCommand (a : Action) : Except AssemblyError (List String) :=
  match a.target with
  | .executable => do return (← a.compilerCommand) ++ a.fissionOption
  | .dynamicLibrary => do
    let wrapper ← a.interfaceWrapper
    let command ← a.compilerCommand
    return (wrapper ++ command).filter (· != "-pie") ++ a.fissionOption
  | .interfaceDynamicLibrary => throw .interfaceTarget
  | _ => a.archiverCommand

end Action
end LinkSynthesis

import LinkSynthesis.Action

/-!
# Runtime search paths

Shared libraries are collected under one solib directory in the output tree. An output finds them
through search paths relative to its own directory, so the way leads up by the depth of the output
below its root: the root of `pkg/sub/app` is `$ORIGIN/../../` and the solib directory.
-/

namespace LinkSynthesis

/-- The search paths of an action. -/
structure RpathPlan where
  solibDir : Path
  /-- The directory of the language runtime, if it has one of its own. -/
  runtimeSolibDir : Option Path
  /-- The option for libraries in the solib directory itself. Other directories are added to it. -/
  root : String
  /-- The option for the runtime directory, which stands first. -/
  runtimeOption : Option String := none
deriving DecidableEq

/-- The step to the parent directory, a number of times. -/
def stepsUp (n : Nat) : String := String.join (List.replicate n "../")

namespace RpathPlan

/-- The search path option of a library directory other than the solib and runtime directories: up
from the solib directory to the nearest common ancestor, then down. Between the two roots, `/` and
`//`, nothing lies above both and a walk up from the one never ends: no budget of steps suffices
(`forall_libraryOptionWithin?_eq_none_iff`). The answer here is that there is no common ancestor; no
assembly asks for such an option. -/
def libraryOption (plan : RpathPlan) (dir : Path) : Except AssemblyError (Option String) :=
  if dir = plan.solibDir ∨ some dir = plan.runtimeSolibDir then .ok none
  else if dir.isAbsolute ≠ plan.solibDir.isAbsolute then
    .error (.noCommonAncestor dir plan.solibDir)
  else match plan.solibDir.stepsToCommon? dir with
    | some steps =>
      let common := plan.solibDir.ascend steps
      .ok (some (plan.root ++ stepsUp steps ++
        "/".intercalate (dir.parts.drop common.parts.length)))
    | none => .error (.noCommonAncestor dir plan.solibDir)

end RpathPlan

namespace Action

/-- The runtime directory is searched: it is a directory of its own and libraries are found there
when the output runs. -/
def wantsRuntimeRpath (a : Action) : Bool :=
  a.runtimeSolibDir.isSome &&
    (a.target = .dynamicLibrary || (a.target = .executable && a.staticness = .dynamic))

/-- The directory of the output at run time, as the loader writes it. -/
def origin (a : Action) : String := if a.useExecOrigin then "$EXEC_ORIGIN/" else "$ORIGIN/"

/-- The depth of the output below its root, in steps up. -/
def outputDepth (a : Action) : Except AssemblyError Nat := do
  let output ← Artifact.require a.output
  match output.rootRelativePath? with
  | some path => return path.parts.length - 1
  | none => throw (.noRelativePath output.path)

/-- The search paths of the action. A shared native library is seen from directories of different
depths, so its libraries are made available next to it. With native dependencies the directory of
the output itself is searched last. -/
def rpathPlan (a : Action) : Except AssemblyError RpathPlan := do
  let start := "-Wl,-rpath," ++ a.origin
  let solibName := a.toolchain.solibDirectory
  let runtimeDir := a.runtimeSolibDir.map Path.parse
  let option (up : String) : Option String :=
    if a.wantsRuntimeRpath then runtimeDir.map fun dir => start ++ up ++ dir.name ++ "/" else none
  if a.isSharedNativeLibrary then
    return {
      solibDir := a.solibDir
      runtimeSolibDir := runtimeDir
      root := start ++ ":" ++ a.origin ++ solibName ++ "/"
      runtimeOption := option "../" }
  else
    let up := stepsUp (← a.outputDepth)
    return {
      solibDir := a.solibDir
      runtimeSolibDir := runtimeDir
      root := start ++ up ++ solibName ++ "/" ++ if a.nativeDeps then ":" ++ a.origin else ""
      runtimeOption := option up }

end Action
end LinkSynthesis

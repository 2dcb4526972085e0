import LinkSynthesis.Artifact
import LinkSynthesis.Text.Quoted

/-!
# Assembly errors

Why no command line can be assembled for an action.
-/

namespace LinkSynthesis

/-- Why assembling a command line stops. -/
inductive AssemblyError where
  /-- A shared library lies neither under the solib directory nor in the runtime directory. -/
  | outsideSolib (execPath : String) (solibDir : Path)
  /-- No way leads from the solib directory to a directory under another anchor. A relative one is
  told from an absolute one; between two roots the way is looked for without end. -/
  | noCommonAncestor (dir solibDir : Path)
  /-- Interface libraries are made along with a dynamic library, never by an action of their own. -/
  | interfaceTarget
  /-- A file that the command line names was left out. -/
  | absentArtifact
  /-- An absolute output has no path below a root without parts. -/
  | noRelativePath (path : Path)
deriving DecidableEq

/-- The text of the error. An absent artifact breaks a run off and is not reported as such; its text
is this library's own. -/
def AssemblyError.message : AssemblyError → String
  | .outsideSolib execPath solibDir =>
    "Artifact '" ++ execPath ++ "' is not under directory '" ++ solibDir.toString ++ "'."
  | .noCommonAncestor dir solibDir =>
    "no common ancestor between '" ++ dir.toString ++ "' and '" ++ solibDir.toString ++ "'"
  | .interfaceTarget =>
    "unexpected link target type: LinkTargetType.INTERFACE_DYNAMIC_LIBRARY"
  | .absentArtifact => "an artifact that the command line names is absent"
  | .noRelativePath path =>
    Text.quoted path.toString ++ " is not in the subpath of ''" ++
      " OR one path is relative and the other is absolute."

/-- The artifact in a place that may have been left out. -/
def Artifact.require : Option Artifact → Except AssemblyError Artifact
  | some artifact => .ok artifact
  | none => .error .absentArtifact

@[simp] theorem Artifact.require_some (a : Artifact) : require (some a) = .ok a := rfl

@[simp] theorem Artifact.require_none : require none = .error .absentArtifact := rfl

end LinkSynthesis

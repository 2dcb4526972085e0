import LinkSynthesis.Artifact.FileType
import LinkSynthesis.Path

/-!
# Artifacts

A file of the build: its exec path and the root of the output tree that it lies in. The empty root
stands for no output tree. An artifact exists only if its path is not empty and lies under its
root; both texts are kept as they were given.
-/

namespace LinkSynthesis

/-- A file of the build. -/
structure Artifact where
  execPath : String
  root : String
  execPath_ne_empty : execPath ≠ ""
  under_root : root = "" ∨ (Path.parse execPath).isUnder (Path.parse root) = true
deriving DecidableEq

/-- Why two texts make no artifact. -/
inductive ArtifactError where
  | emptyPath
  | outsideRoot (execPath root : String)
deriving DecidableEq, Repr

/-- The text of the error. -/
def ArtifactError.message : ArtifactError → String
  | .emptyPath => "artifact exec path must not be empty"
  | .outsideRoot execPath root => "artifact " ++ execPath ++ " is not under its root " ++ root

namespace Artifact

/-- The artifact of a path and a root. -/
def ofStrings (execPath root : String) : Except ArtifactError Artifact :=
  if hp : execPath = "" then .error .emptyPath
  else if hr : root = "" ∨ (Path.parse execPath).isUnder (Path.parse root) = true then
    .ok ⟨execPath, root, hp, hr⟩
  else .error (.outsideRoot execPath root)

/-- The exec path, read. -/
def path (a : Artifact) : Path := .parse a.execPath

/-- The last segment of the path. -/
def filename (a : Artifact) : String := a.path.name

/-- The directory of the artifact. -/
def parent (a : Artifact) : Path := a.path.parent

/-- The path below the root; the whole path if there is no root. An absolute path has none below a
root without parts, though such a root accepts it. -/
def rootRelativePath? (a : Artifact) : Option Path :=
  if a.root = "" then some a.path else a.path.relativeTo? (.parse a.root)

/-- The artifact is linked dynamically. -/
def isDynamicLibrary (a : Artifact) : Bool := FileType.isDynamicLibrary a.filename

@[simp] theorem ofStrings_execPath_root (a : Artifact) : ofStrings a.execPath a.root = .ok a := by
  simp [ofStrings, a.execPath_ne_empty, a.under_root]

theorem ofStrings_eq_ok {execPath root : String} {a : Artifact}
    (h : ofStrings execPath root = .ok a) : a.execPath = execPath ∧ a.root = root := by
  unfold ofStrings at h
  split at h
  · cases h
  · split at h
    · cases h; exact ⟨rfl, rfl⟩
    · cases h

end Artifact
end LinkSynthesis

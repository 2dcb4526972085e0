import LinkSynthesis.AssemblyError

/-!
# Linker inputs

The files that a link consumes. A document may leave an artifact out; that is noticed when a
command line needs it.
-/

namespace LinkSynthesis

/-- An input of a link. -/
inductive LinkerInput where
  /-- An object file, an archive or a shared library, passed as it is. -/
  | plain (artifact : Option Artifact)
  /-- An archive whose members may be passed in its place. -/
  | archive (artifact : Option Artifact) (members : List (Option Artifact))
  /-- A stand-in for an object file, marked as such. -/
  | fake (artifact : Option Artifact)
deriving DecidableEq

namespace LinkerInput

/-- The file itself. -/
def artifact : LinkerInput → Option Artifact
  | plain artifact | archive artifact _ | fake artifact => artifact

/-- The members that may be passed in place of the file; only an archive has any. -/
def members : LinkerInput → List (Option Artifact)
  | archive _ members => members
  | _ => []

/-- The input is a shared library that is linked dynamically. Its name alone decides. -/
def isDynamicLibrary (input : LinkerInput) : Except AssemblyError Bool :=
  (Artifact.require input.artifact).map Artifact.isDynamicLibrary

end LinkerInput
end LinkSynthesis

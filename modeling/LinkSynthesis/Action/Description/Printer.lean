import LinkSynthesis.Action.Description

/-!
# Written link descriptions

The link description of an action. Every artifact is written with its root, so that no default
applies when it is read, and the members of an archive are always listed, even if there are none.
-/

namespace LinkSynthesis
open Json (Value Members)

namespace Description

/-- The members that say which artifact is meant. -/
def artifactMembers (artifact : Option Artifact) : Members :=
  match artifact with
  | some artifact => [("path", .str artifact.execPath), ("root", .str artifact.root)]
  | none => []

/-- An artifact, or null. -/
def writeArtifact : Option Artifact → Value
  | none => .null
  | artifact => .obj (artifactMembers artifact)

/-- A linker input. -/
def writeInput : LinkerInput → Value
  | .plain artifact => writeArtifact artifact
  | .archive artifact members =>
    .obj (artifactMembers artifact ++ [("objects", .arr (members.map writeArtifact))])
  | .fake artifact => .obj (artifactMembers artifact ++ [("fake", .bool true)])

/-- A linkstamp. -/
def writeLinkstamp (stamp : Linkstamp) : Value :=
  .obj [("source", writeArtifact stamp.source), ("object", writeArtifact stamp.object)]

/-- An artifact that is left out if there is none. -/
def writeOptional (artifact : Option Artifact) : Option Value :=
  artifact.map fun artifact => writeArtifact (some artifact)

/-- A list of texts. -/
def writeTexts (texts : List String) : Value := .arr (texts.map .str)

/-- The keys with what an action says under them; only optional artifacts may be left out. The names
of the features are a set and may come in any order. -/
def fields (a : Action) (features : List String) : List (String × Option Value) :=
  [("owner", some (.str a.ownerLabel)),
   ("target", some (.str a.target.keyword)),
   ("staticness", some (.str a.staticness.keyword)),
   ("output", some (writeArtifact a.output)),
   ("interface_output", writeOptional a.interfaceOutput),
   ("symbol_counts_output", writeOptional a.symbolCountsOutput),
   ("build_info_headers", some (.arr (a.buildInfoHeaders.map writeArtifact))),
   ("linker_inputs", some (.arr (a.linkerInputs.map writeInput))),
   ("runtime_inputs", some (.arr (a.runtimeInputs.map writeInput))),
   ("linkopts", some (writeTexts a.linkopts)),
   ("features", some (writeTexts features)),
   ("linkstamps", some (.arr (a.linkstamps.map writeLinkstamp))),
   ("runtime_solib_dir", some ((a.runtimeSolibDir.map Value.str).getD .null)),
   ("native_deps", some (.bool a.nativeDeps)),
   ("use_exec_origin", some (.bool a.useExecOrigin)),
   ("interface_so_builder", writeOptional a.interfaceSoBuilder)]

/-- The description of an action. -/
def ofAction (a : Action) (features : List String) : Members :=
  (fields a features).filterMap fun (key, value) => value.map (key, ·)

end Description
end LinkSynthesis

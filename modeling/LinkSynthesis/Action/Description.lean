import LinkSynthesis.Action.Draft
import LinkSynthesis.Json.Order
import LinkSynthesis.Text.Letters

/-!
# Link descriptions

A link description is an object that names the fields of an action. An artifact is a path, or an
object with a path and a root; without a root it belongs to the output tree if it lies there. An
input may also be an object that lists the members of an archive or that says it is a stand-in.

A document that is no object describes no action. What it lists is still held against the keys, so
that a list of names is refused for the names that it holds or lacks.
-/

namespace LinkSynthesis
open Json (Value Members)

/-- Why a document describes no action. -/
inductive DescriptionError where
  | notObject (document : Value)
  | unknownKey (key : String)
  | missingKey (key : String)
  | unknownTarget (value : Value)
  | unknownStaticness (value : Value)
  | notArtifact (value : Value)
  | badArtifact (error : ArtifactError)
  /-- A path that is to be placed in the output tree is no text. -/
  | pathNotText (value : Value)
  /-- A value that is no list, text or object stands where elements are needed. -/
  | nothingToList (value : Value)
  | notLinkstamp (entry : Value)
  | notText (key : String)
  | notSwitch (key : String)
  | badDraft (error : DraftError)

/-- The text of the error. The shapes that `notObject`, `pathNotText` and `nothingToList` stand for
are not foreseen by any check: they break a run off and are not reported as such. Their texts are
this library's own and show the value. -/
def DescriptionError.message : DescriptionError → String
  | .notObject document => "link description is no object: " ++ document.literal
  | .unknownKey key => "unknown key in link description: " ++ key
  | .missingKey key => "missing required key: " ++ key
  | .unknownTarget value =>
    "invalid target: " ++ value.display ++ " (expected one of: " ++
      ", ".intercalate (TargetKind.all.map (·.keyword)) ++ ")"
  | .unknownStaticness value =>
    "invalid staticness: " ++ value.display ++ " (expected one of: " ++
      ", ".intercalate (Staticness.all.map (·.keyword)) ++ ")"
  | .notArtifact value => "invalid artifact: " ++ value.literal
  | .badArtifact error => error.message
  | .pathNotText value => "path is no text: " ++ value.literal
  | .nothingToList value => "not a list: " ++ value.literal
  | .notLinkstamp entry => "linkstamp entries need source and object: " ++ entry.literal
  | .notText key => key ++ " must be a string"
  | .notSwitch key => key ++ " must be true or false"
  | .badDraft error => error.message

namespace Description

/-- The keys of a link description. -/
def keys : List String :=
  ["owner", "target", "staticness", "output", "interface_output", "symbol_counts_output",
   "build_info_headers", "linker_inputs", "runtime_inputs", "linkopts", "features", "linkstamps",
   "runtime_solib_dir", "native_deps", "use_exec_origin", "interface_so_builder"]

/-- The keys that a link description must have. -/
def requiredKeys : List String := ["owner", "target", "output"]

/-! ### Values -/

/-- A target kind, in letters of any case. -/
def readTarget (value : Value) : Except DescriptionError TargetKind :=
  match TargetKind.ofKeyword? (Text.lower value.display) with
  | some kind => .ok kind
  | none => .error (.unknownTarget value)

/-- A staticness tier, in letters of any case. -/
def readStaticness (value : Value) : Except DescriptionError Staticness :=
  match Staticness.ofKeyword? (Text.lower value.display) with
  | some tier => .ok tier
  | none => .error (.unknownStaticness value)

/-- The root of a path for which none is given: the output tree, if the path lies under it. -/
def defaultRoot (binDir path : String) : String :=
  if (Path.parse path).isUnder (Path.parse binDir) then binDir else ""

/-- An artifact of a path and, unless it is null, a root. -/
def placeArtifact (binDir : String) (path root : Value) : Except DescriptionError Artifact :=
  match path, root with
  | .str path, .null => (Artifact.ofStrings path (defaultRoot binDir path)).mapError .badArtifact
  | path, .null => .error (.pathNotText path)
  | path, root => (Artifact.ofStrings path.display root.display).mapError .badArtifact

/-- An artifact; null stands for none. -/
def readArtifact (binDir : String) (value : Value) : Except DescriptionError (Option Artifact) :=
  match value with
  | .null => .ok none
  | .str path => (placeArtifact binDir (.str path) .null).map some
  | .obj members =>
    match Members.get? members "path" with
    | some path =>
      (placeArtifact binDir path ((Members.get? members "root").getD .null)).map some
    | none => .error (.notArtifact value)
  | _ => .error (.notArtifact value)

/-- The elements of a value that must list something. -/
def readElements (value : Value) : Except DescriptionError (List Value) :=
  match value.elements? with
  | some elements => .ok elements
  | none => .error (.nothingToList value)

/-- A linker input. The members of an archive are read before its path. -/
def readInput (binDir : String) (value : Value) : Except DescriptionError LinkerInput :=
  match value with
  | .obj members =>
    match Members.get? members "objects" with
    | some objects => do
      let objects ← (← readElements objects).mapM (readArtifact binDir)
      return .archive (← readArtifact binDir value) objects
    | none =>
      if ((Members.get? members "fake").getD .null).isTruthy then
        (readArtifact binDir value).map .fake
      else (readArtifact binDir value).map .plain
  | _ => (readArtifact binDir value).map .plain

/-- A linkstamp: an object with a source and an object file, and nothing else. -/
def readLinkstamp (binDir : String) (entry : Value) : Except DescriptionError Linkstamp :=
  match entry with
  | .obj members =>
    match Members.get? members "source", Members.get? members "object" with
    | some source, some object =>
      if members.all fun member => member.1 == "source" || member.1 == "object" then do
        return ⟨← readArtifact binDir source, ← readArtifact binDir object⟩
      else .error (.notLinkstamp entry)
    | _, _ => .error (.notLinkstamp entry)
  | _ => .error (.notLinkstamp entry)

/-! ### Members -/

/-- The value of a member; null if there is none. -/
def valueAt (members : Members) (key : String) : Value := (members.get? key).getD .null

/-- The elements of a member; a value that says nothing has none. -/
def elementsAt (members : Members) (key : String) : Except DescriptionError (List Value) :=
  let value := valueAt members key
  match value.optionalElements? with
  | some elements => .ok elements
  | none => .error (.nothingToList value)

/-- A text that may be left out. -/
def textAt (members : Members) (key : String) : Except DescriptionError (Option String) :=
  match valueAt members key with
  | .null => .ok none
  | .str text => .ok (some text)
  | _ => .error (.notText key)

/-- A switch, off if it is left out. -/
def switchAt (members : Members) (key : String) : Except DescriptionError Bool :=
  match members.get? key with
  | none => .ok false
  | some (.bool on) => .ok on
  | some _ => .error (.notSwitch key)

/-- Refuses unknown keys, the first in code point order, then missing ones. -/
def checkKeys (members : Members) : Except DescriptionError Unit := do
  let unknown := (members.map (·.1)).filter fun key => !keys.contains key
  if let some key := (NameSet.ofList unknown).first? then throw (.unknownKey key)
  if let some key := requiredKeys.find? fun key => !members.has key then throw (.missingKey key)

/-- Sets a field of a draft. -/
def edit (draft : Draft) (change : Draft.Edit) : Except DescriptionError Draft :=
  (draft.edit change).mapError .badDraft

/-- The draft of a description. The members are read in a fixed order, whatever their order in the
document, so the error is that of the first bad one in this order. -/
def draft (members : Members) (tc : Toolchain) : Except DescriptionError Draft := do
  checkKeys members
  let artifact (key : String) := readArtifact tc.binDir (valueAt members key)
  let draft : Draft := { toolchain := tc, ownerLabel := (valueAt members "owner").display }
  let draft ← edit draft (.target (← readTarget (valueAt members "target")))
  let staticness ← match members.get? "staticness" with
    | some value => readStaticness value
    | none => .ok .fullyStatic
  let output ← artifact "output"
  let interfaceOutput ← artifact "interface_output"
  let symbolCountsOutput ← artifact "symbol_counts_output"
  let buildInfoHeaders ←
    (← elementsAt members "build_info_headers").mapM (readArtifact tc.binDir)
  let linkerInputs ← (← elementsAt members "linker_inputs").mapM (readInput tc.binDir)
  let runtimeInputs ← (← elementsAt members "runtime_inputs").mapM (readInput tc.binDir)
  let linkopts ← elementsAt members "linkopts"
  let features ← elementsAt members "features"
  let linkstamps ← (← elementsAt members "linkstamps").mapM (readLinkstamp tc.binDir)
  let runtimeSolibDir ← textAt members "runtime_solib_dir"
  let nativeDeps ← switchAt members "native_deps"
  let useExecOrigin ← switchAt members "use_exec_origin"
  let interfaceSoBuilder ← artifact "interface_so_builder"
  return { draft with
    staticness, output, interfaceOutput, symbolCountsOutput, buildInfoHeaders, linkerInputs,
    runtimeInputs, linkopts := linkopts.map (·.display),
    features := .ofList (features.map (·.display)), linkstamps, runtimeSolibDir, nativeDeps,
    useExecOrigin, interfaceSoBuilder }

/-! ### Documents that are no objects -/

/-- The key that a value names. -/
def keyNamed? (value : Value) : Option String :=
  match value with
  | .str name => if keys.contains name then some name else none
  | _ => none

/-- Why a document that is no object is refused. Names that are no keys come first, of them the
least one if they can be ordered, and then the required keys that it does not name. -/
def refusal (document : Value) : DescriptionError :=
  match document.elements? with
  | none => .notObject document
  | some names =>
    match names.filter fun name => (keyNamed? name).isNone with
    | [] =>
      match requiredKeys.find? fun key => !(names.filterMap keyNamed?).contains key with
      | some key => .missingKey key
      | none => .notObject document
    | unknown =>
      match Value.least? unknown with
      | some name => .unknownKey name.display
      | none => .notObject document

end Description

/-- The action that an object describes. -/
def Action.ofDescription (members : Members) (tc : Toolchain) : Except DescriptionError Action := do
  let draft ← Description.draft members tc
  draft.build.mapError .badDraft

/-- The action that a document describes. -/
def Action.ofDocument (document : Value) (tc : Toolchain) : Except DescriptionError Action :=
  match document with
  | .obj members => ofDescription members tc
  | _ => .error (Description.refusal document)

end LinkSynthesis

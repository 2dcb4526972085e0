import LinkSynthesis.LinkerInput
import LinkSynthesis.Toolchain

/-!
# Link actions

One link or archive action, complete: what is made of which inputs, how, and under whose name.
Command lines are assembled from this alone.
-/

namespace LinkSynthesis

/-- A small source that is compiled at link time to embed the identity of the target. -/
structure Linkstamp where
  source : Option Artifact
  object : Option Artifact
deriving DecidableEq

/-- A link or archive action. -/
structure Action where
  toolchain : Toolchain
  /-- The label of the target that asks for the action. -/
  ownerLabel : String
  target : TargetKind
  staticness : Staticness
  output : Option Artifact
  interfaceOutput : Option Artifact := none
  symbolCountsOutput : Option Artifact := none
  buildInfoHeaders : List (Option Artifact) := []
  linkerInputs : List LinkerInput := []
  runtimeInputs : List LinkerInput := []
  linkopts : List String := []
  features : NameSet := .empty
  /-- In the order in which they are compiled and linked. -/
  linkstamps : List Linkstamp := []
  runtimeSolibDir : Option String := none
  nativeDeps : Bool := false
  useExecOrigin : Bool := false
  interfaceSoBuilder : Option Artifact := none
deriving DecidableEq

namespace Action

/-- The output is a library of native dependencies that several targets share, so nothing in it may
depend on the target that asks for it. -/
def isSharedNativeLibrary (a : Action) : Bool := a.nativeDeps && a.toolchain.shareNativeDeps

/-- The objects of the linkstamps. -/
def linkstampObjects (a : Action) : List (Option Artifact) := a.linkstamps.map (·.object)

/-- The files of all inputs, linker inputs first. -/
def inputs (a : Action) : List LinkerInput := a.linkerInputs ++ a.runtimeInputs

/-- No file that a command line names is left out. The optional outputs may be missing. -/
structure IsComplete (a : Action) : Prop where
  output : a.output.isSome
  headers : ∀ header ∈ a.buildInfoHeaders, header.isSome
  inputs : ∀ input ∈ a.inputs, input.artifact.isSome ∧ ∀ member ∈ input.members, member.isSome
  linkstamps : ∀ stamp ∈ a.linkstamps, stamp.source.isSome ∧ stamp.object.isSome

/-- The directory that collects the shared libraries. -/
def solibDir (a : Action) : Path :=
  (Path.parse a.toolchain.binDir).join (Path.parse a.toolchain.solibDirectory)

end Action
end LinkSynthesis

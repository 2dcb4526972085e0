import LinkSynthesis.Action

/-!
# Drafts of actions

The fields of an action while they are being collected. Each edit sets one field; `build` checks
the rules that tie fields together and names the first that is broken. An archive action drops its
linkopts, and the builder of interface libraries is kept only where an interface is made.
-/

namespace LinkSynthesis

/-- Why a draft is no action. -/
inductive DraftError where
  | interfaceTarget
  | noTarget
  | noOutput
  | unexpectedInterfaceOutput
  | repeatedSource (source : Option Artifact)
  | linkstampsInArchive
  | archiveNotFullyStatic
  | headersInArchive
  | symbolCountsInArchive
  | runtimeDirInArchive
  | execOriginInArchive
  | nativeDepsInArchive
  | noInterfaceBuilder
deriving DecidableEq

/-- The text of the error. -/
def DraftError.message : DraftError → String
  | .interfaceTarget => "you can't link an interface dynamic library directly"
  | .noTarget => "link target type must be set"
  | .noOutput => "output artifact must be set"
  | .unexpectedInterfaceOutput => "interface output may only be set for dynamic library links"
  | .repeatedSource source =>
    "duplicate linkstamp source: " ++ (source.map Artifact.execPath).getD "None"
  | .linkstampsInArchive =>
    "linkstamps may only be present on dynamic library or executable links"
  | .archiveNotFullyStatic => "static library link must be fully static"
  | .headersInArchive =>
    "build info headers may only be present on dynamic library or executable links"
  | .symbolCountsInArchive => "the symbol counts output must be unset for static links"
  | .runtimeDirInArchive => "the runtime solib directory must be unset for static links"
  | .execOriginInArchive => "the exec origin flag must be false for static links"
  | .nativeDepsInArchive => "the native deps flag must be false for static links"
  | .noInterfaceBuilder => "an interface .so builder is required when an interface output is set"

/-- The fields of an action that have been collected so far. -/
structure Draft where
  toolchain : Toolchain
  ownerLabel : String
  target : Option TargetKind := none
  staticness : Staticness := .fullyStatic
  output : Option Artifact := none
  interfaceOutput : Option Artifact := none
  symbolCountsOutput : Option Artifact := none
  buildInfoHeaders : List (Option Artifact) := []
  linkerInputs : List LinkerInput := []
  runtimeInputs : List LinkerInput := []
  linkopts : List String := []
  features : NameSet := .empty
  linkstamps : List Linkstamp := []
  runtimeSolibDir : Option String := none
  nativeDeps : Bool := false
  useExecOrigin : Bool := false
  interfaceSoBuilder : Option Artifact := none
deriving DecidableEq

/-- The linkstamps of a mapping from sources to objects: a repeated source keeps its first place and
takes its last object. -/
def Linkstamp.ofMapping (entries : List Linkstamp) : List Linkstamp :=
  entries.foldl (fun stamps entry =>
    if stamps.any (·.source == entry.source) then
      stamps.map fun stamp => if stamp.source == entry.source then entry else stamp
    else stamps ++ [entry]) []

/-- The first element that stands in the list a second time. -/
def firstRepeated? {α : Type} [DecidableEq α] : (seen : List α) → List α → Option α
  | _, [] => none
  | seen, x :: rest => if x ∈ seen then some x else firstRepeated? (x :: seen) rest

namespace Draft

/-- A new value for one field. -/
inductive Edit where
  | target (kind : TargetKind)
  | staticness (tier : Staticness)
  | output (artifact : Option Artifact)
  | interfaceOutput (artifact : Option Artifact)
  | symbolCountsOutput (artifact : Option Artifact)
  | buildInfoHeaders (headers : List (Option Artifact))
  | linkerInputs (inputs : List LinkerInput)
  | runtimeInputs (inputs : List LinkerInput)
  | linkopts (options : List String)
  | features (names : NameSet)
  | linkstamps (stamps : List Linkstamp)
  | runtimeSolibDir (dir : Option String)
  | nativeDeps (on : Bool)
  | useExecOrigin (on : Bool)
  | interfaceSoBuilder (artifact : Option Artifact)

/-- Sets one field. The only value that is refused is the interface library as target. -/
def edit (d : Draft) : Edit → Except DraftError Draft
  | .target .interfaceDynamicLibrary => .error .interfaceTarget
  | .target kind => .ok { d with target := kind }
  | .staticness tier => .ok { d with staticness := tier }
  | .output artifact => .ok { d with output := artifact }
  | .interfaceOutput artifact => .ok { d with interfaceOutput := artifact }
  | .symbolCountsOutput artifact => .ok { d with symbolCountsOutput := artifact }
  | .buildInfoHeaders headers => .ok { d with buildInfoHeaders := headers }
  | .linkerInputs inputs => .ok { d with linkerInputs := inputs }
  | .runtimeInputs inputs => .ok { d with runtimeInputs := inputs }
  | .linkopts options => .ok { d with linkopts := options }
  | .features names => .ok { d with features := names }
  | .linkstamps stamps => .ok { d with linkstamps := stamps }
  | .runtimeSolibDir dir => .ok { d with runtimeSolibDir := dir }
  | .nativeDeps on => .ok { d with nativeDeps := on }
  | .useExecOrigin on => .ok { d with useExecOrigin := on }
  | .interfaceSoBuilder artifact => .ok { d with interfaceSoBuilder := artifact }

/-- The draft is one of an archive action. -/
def isArchive (d : Draft) : Bool := d.target.any (·.isStaticLibrary)

/-- The rules for every action, in the order of the checks. -/
def commonRules (d : Draft) : List (Bool × DraftError) :=
  [(d.target.isSome, .noTarget),
   (d.output.isSome, .noOutput),
   (d.target ≠ some .interfaceDynamicLibrary, .interfaceTarget),
   (d.target = some .dynamicLibrary || d.interfaceOutput.isNone, .unexpectedInterfaceOutput)]

/-- No source is compiled twice. -/
def sourceRules (d : Draft) : List (Bool × DraftError) :=
  match firstRepeated? [] (d.linkstamps.map (·.source)) with
  | some source => [(false, .repeatedSource source)]
  | none => []

/-- What only linking has, and an archive action may not ask for. -/
def archiveRules (d : Draft) : List (Bool × DraftError) :=
  [(d.linkstamps.isEmpty, .linkstampsInArchive),
   (d.staticness = .fullyStatic, .archiveNotFullyStatic),
   (d.buildInfoHeaders.isEmpty, .headersInArchive),
   (d.symbolCountsOutput.isNone, .symbolCountsInArchive),
   (d.runtimeSolibDir.isNone, .runtimeDirInArchive),
   (!d.useExecOrigin, .execOriginInArchive),
   (!d.nativeDeps, .nativeDepsInArchive)]

/-- All rules, each with the error of breaking it, in the order of the checks. -/
def rules (d : Draft) : List (Bool × DraftError) :=
  d.commonRules ++ d.sourceRules ++ (if d.isArchive then d.archiveRules else []) ++
    [(d.interfaceOutput.isNone || d.interfaceSoBuilder.isSome, .noInterfaceBuilder)]

/-- The error of the first rule that is broken. -/
def firstError? (d : Draft) : Option DraftError := (d.rules.find? fun rule => !rule.1).map (·.2)

/-- The fields of the draft as an action, without the fields that its kind has no use for. -/
def toAction (d : Draft) (target : TargetKind) : Action where
  toolchain := d.toolchain
  ownerLabel := d.ownerLabel
  target := target
  staticness := d.staticness
  output := d.output
  interfaceOutput := d.interfaceOutput
  symbolCountsOutput := d.symbolCountsOutput
  buildInfoHeaders := d.buildInfoHeaders
  linkerInputs := d.linkerInputs
  runtimeInputs := d.runtimeInputs
  linkopts := if target.isStaticLibrary then [] else d.linkopts
  features := d.features
  linkstamps := d.linkstamps
  runtimeSolibDir := d.runtimeSolibDir
  nativeDeps := d.nativeDeps
  useExecOrigin := d.useExecOrigin
  interfaceSoBuilder := if d.interfaceOutput.isSome then d.interfaceSoBuilder else none

/-- The action of a draft that keeps all rules. -/
def build (d : Draft) : Except DraftError Action :=
  match d.firstError?, d.target with
  | some error, _ => .error error
  | none, some target => .ok (d.toAction target)
  | none, none => .error .noTarget

/-! ### Small facts -/

theorem firstError?_eq_none_iff {d : Draft} :
    d.firstError? = none ↔ ∀ rule ∈ d.rules, rule.1 = true := by
  simp [firstError?]

/-- A draft that breaks a rule gives the error of the first one broken, and no action. -/
theorem build_eq_error_iff {d : Draft} {error : DraftError} :
    d.build = .error error ↔ d.firstError? = some error := by
  have target_of_rules : d.firstError? = none → d.target.isSome := fun h =>
    firstError?_eq_none_iff.1 h (d.target.isSome, .noTarget) (by simp [rules, commonRules])
  unfold build
  split
  · next h => simp [h]
  · next h _ => simp [h]
  · next h ht => simp [ht] at target_of_rules; exact absurd h target_of_rules

end Draft
end LinkSynthesis

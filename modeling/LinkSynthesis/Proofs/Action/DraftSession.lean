import Mathlib.Data.List.Induction
import LinkSynthesis.Action.Draft
import LinkSynthesis.Proofs.Results

/-!
# Sessions of a draft

A draft under any series of edits and builds, refused edits and failing builds included. Each field
holds the last value that was accepted for it, so the draft is the record of these values
(`run_eq_settled`). A further build succeeds exactly when these values fit together, and the action
it gives holds them.
-/

namespace LinkSynthesis.Draft

/-- A draft without edits. -/
def fresh (tc : Toolchain) (owner : String) : Draft where
  toolchain := tc
  ownerLabel := owner

/-- What is asked of a draft. -/
inductive Call where
  | set (edit : Edit)
  | build

/-- The draft after a call. It stays as it is when an edit is refused, and when it is built. -/
def after (d : Draft) : Call → Draft
  | .set edit => (d.edit edit).toOption.getD d
  | .build => d

/-- The draft after some calls. -/
def run (d : Draft) (calls : List Call) : Draft := calls.foldl after d

/-! ### Last values -/

/-- A field that edits set, with the type of its values. -/
inductive Field : Type → Type where
  | target : Field (Option TargetKind)
  | staticness : Field Staticness
  | output : Field (Option Artifact)
  | interfaceOutput : Field (Option Artifact)
  | symbolCountsOutput : Field (Option Artifact)
  | buildInfoHeaders : Field (List (Option Artifact))
  | linkerInputs : Field (List LinkerInput)
  | runtimeInputs : Field (List LinkerInput)
  | linkopts : Field (List String)
  | features : Field NameSet
  | linkstamps : Field (List Linkstamp)
  | runtimeSolibDir : Field (Option String)
  | nativeDeps : Field Bool
  | useExecOrigin : Field Bool
  | interfaceSoBuilder : Field (Option Artifact)

variable {α : Type}

/-- The value of a field that nobody has set. -/
def Field.default : Field α → α
  | .target | .output | .interfaceOutput | .symbolCountsOutput | .interfaceSoBuilder
  | .runtimeSolibDir => none
  | .staticness => .fullyStatic
  | .buildInfoHeaders | .linkerInputs | .runtimeInputs | .linkopts | .linkstamps => []
  | .features => .empty
  | .nativeDeps | .useExecOrigin => false

/-- The value that an edit gives a field, if it sets that field. -/
def Edit.value? : Edit → Field α → Option α
  | .target kind, .target => some (some kind)
  | .staticness tier, .staticness => some tier
  | .output artifact, .output => some artifact
  | .interfaceOutput artifact, .interfaceOutput => some artifact
  | .symbolCountsOutput artifact, .symbolCountsOutput => some artifact
  | .buildInfoHeaders headers, .buildInfoHeaders => some headers
  | .linkerInputs inputs, .linkerInputs => some inputs
  | .runtimeInputs inputs, .runtimeInputs => some inputs
  | .linkopts options, .linkopts => some options
  | .features names, .features => some names
  | .linkstamps stamps, .linkstamps => some stamps
  | .runtimeSolibDir dir, .runtimeSolibDir => some dir
  | .nativeDeps on, .nativeDeps => some on
  | .useExecOrigin on, .useExecOrigin => some on
  | .interfaceSoBuilder artifact, .interfaceSoBuilder => some artifact
  | _, _ => none

/-- The edit that a call makes; the interface library is refused as target. -/
def Call.accepted? : Call → Option Edit
  | .set (.target .interfaceDynamicLibrary) => none
  | .set edit => some edit
  | .build => none

/-- The last value that calls have given a field, or its default. -/
def lastValue (calls : List Call) (f : Field α) : α :=
  ((calls.filterMap fun call => call.accepted?.bind (·.value? f)).getLast?).getD f.default

/-- The record of the last values. -/
def settled (tc : Toolchain) (owner : String) (calls : List Call) : Draft where
  toolchain := tc
  ownerLabel := owner
  target := lastValue calls .target
  staticness := lastValue calls .staticness
  output := lastValue calls .output
  interfaceOutput := lastValue calls .interfaceOutput
  symbolCountsOutput := lastValue calls .symbolCountsOutput
  buildInfoHeaders := lastValue calls .buildInfoHeaders
  linkerInputs := lastValue calls .linkerInputs
  runtimeInputs := lastValue calls .runtimeInputs
  linkopts := lastValue calls .linkopts
  features := lastValue calls .features
  linkstamps := lastValue calls .linkstamps
  runtimeSolibDir := lastValue calls .runtimeSolibDir
  nativeDeps := lastValue calls .nativeDeps
  useExecOrigin := lastValue calls .useExecOrigin
  interfaceSoBuilder := lastValue calls .interfaceSoBuilder

/-- The value that a draft holds in a field. -/
def get (d : Draft) : Field α → α
  | .target => d.target
  | .staticness => d.staticness
  | .output => d.output
  | .interfaceOutput => d.interfaceOutput
  | .symbolCountsOutput => d.symbolCountsOutput
  | .buildInfoHeaders => d.buildInfoHeaders
  | .linkerInputs => d.linkerInputs
  | .runtimeInputs => d.runtimeInputs
  | .linkopts => d.linkopts
  | .features => d.features
  | .linkstamps => d.linkstamps
  | .runtimeSolibDir => d.runtimeSolibDir
  | .nativeDeps => d.nativeDeps
  | .useExecOrigin => d.useExecOrigin
  | .interfaceSoBuilder => d.interfaceSoBuilder

theorem get_fresh (tc : Toolchain) (owner : String) (f : Field α) :
    (fresh tc owner).get f = f.default := by
  cases f <;> rfl

/-- An edit that is not refused sets its field and no other. -/
theorem get_edit {d d' : Draft} {edit : Edit} (h : d.edit edit = .ok d') (f : Field α) :
    d'.get f = (edit.value? f).getD (d.get f) := by
  cases edit with
  | target kind => cases kind <;> cases h <;> cases f <;> rfl
  | _ => cases h; cases f <;> rfl

theorem edit_eq_error_iff {d : Draft} {edit : Edit} {error : DraftError} :
    d.edit edit = .error error ↔
      edit = .target .interfaceDynamicLibrary ∧ error = .interfaceTarget := by
  cases edit with
  | target kind => cases kind <;> simp [Draft.edit, eq_comm]
  | _ => simp [Draft.edit]

theorem accepted?_of_edit {d d' : Draft} {edit : Edit} (h : d.edit edit = .ok d') :
    (Call.set edit).accepted? = some edit := by
  cases edit with
  | target kind => cases kind <;> first | rfl | cases h
  | _ => rfl

/-- A call changes a field only if it is accepted and sets it. -/
theorem get_after (d : Draft) (call : Call) (f : Field α) :
    (d.after call).get f = (call.accepted?.bind (·.value? f)).getD (d.get f) := by
  cases call with
  | build => rfl
  | set edit =>
    cases h : d.edit edit with
    | ok d' =>
      rw [accepted?_of_edit h, Option.bind_some, ← get_edit h]
      simp [after, h, Except.toOption]
    | error e =>
      obtain ⟨rfl, -⟩ := edit_eq_error_iff.1 h
      rfl

theorem run_concat (d : Draft) (calls : List Call) (call : Call) :
    d.run (calls ++ [call]) = (d.run calls).after call := by
  simp [run]

/-- Every field holds the last value accepted for it, or the value it began with. -/
theorem get_run (d : Draft) (calls : List Call) (f : Field α) :
    (d.run calls).get f =
      ((calls.filterMap fun call => call.accepted?.bind (·.value? f)).getLast?).getD (d.get f) := by
  -- From the back, as the last accepted value is looked for first.
  induction calls using List.reverseRecOn with
  | nil => rfl
  | append_singleton calls call ih =>
    rw [run_concat, get_after, ih, List.filterMap_append]
    cases h : call.accepted?.bind (·.value? f) <;> simp [h]

theorem after_toolchain (d : Draft) (call : Call) :
    (d.after call).toolchain = d.toolchain ∧ (d.after call).ownerLabel = d.ownerLabel := by
  cases call with
  | build => exact ⟨rfl, rfl⟩
  | set edit =>
    cases edit with
    | target kind => cases kind <;> exact ⟨rfl, rfl⟩
    | _ => exact ⟨rfl, rfl⟩

theorem run_toolchain (d : Draft) (calls : List Call) :
    (d.run calls).toolchain = d.toolchain ∧ (d.run calls).ownerLabel = d.ownerLabel := by
  induction calls generalizing d with
  | nil => exact ⟨rfl, rfl⟩
  | cons call calls ih =>
    obtain ⟨ht, ho⟩ := ih (d.after call)
    exact ⟨ht.trans (d.after_toolchain call).1, ho.trans (d.after_toolchain call).2⟩

theorem ext_get {d d' : Draft} (ht : d.toolchain = d'.toolchain)
    (ho : d.ownerLabel = d'.ownerLabel) (h : ∀ (α : Type) (f : Field α), d.get f = d'.get f) :
    d = d' := by
  cases d
  cases d'
  simp only [mk.injEq]
  exact ⟨ht, ho, h _ .target, h _ .staticness, h _ .output, h _ .interfaceOutput,
    h _ .symbolCountsOutput, h _ .buildInfoHeaders, h _ .linkerInputs, h _ .runtimeInputs,
    h _ .linkopts, h _ .features, h _ .linkstamps, h _ .runtimeSolibDir, h _ .nativeDeps,
    h _ .useExecOrigin, h _ .interfaceSoBuilder⟩

/-- The last values say all about a draft. -/
theorem run_eq_settled (tc : Toolchain) (owner : String) (calls : List Call) :
    (fresh tc owner).run calls = settled tc owner calls := by
  obtain ⟨ht, ho⟩ := run_toolchain (fresh tc owner) calls
  refine ext_get ht ho fun α f => ?_
  rw [get_run, get_fresh]
  cases f <;> rfl

theorem after_target_ne {d : Draft} (h : d.target ≠ some .interfaceDynamicLibrary) (call : Call) :
    (d.after call).target ≠ some .interfaceDynamicLibrary := by
  cases call with
  | build => exact h
  | set edit =>
    cases edit with
    | target kind => cases kind <;> first | exact h | simp [after, edit, Except.toOption]
    | _ => exact h

/-- The interface library is never the target that is settled on. -/
theorem settled_target_ne (tc : Toolchain) (owner : String) (calls : List Call) :
    (settled tc owner calls).target ≠ some .interfaceDynamicLibrary := by
  rw [← run_eq_settled]
  induction calls using List.reverseRecOn with
  | nil => simp [run, fresh]
  | append_singleton calls call ih => exact run_concat _ calls call ▸ after_target_ne ih call

/-! ### Building -/

theorem firstRepeated?_eq_none_iff {β : Type} [DecidableEq β] {seen l : List β} :
    firstRepeated? seen l = none ↔ l.Nodup ∧ ∀ x ∈ l, x ∉ seen := by
  induction l generalizing seen with
  | nil => simp [firstRepeated?]
  | cons x l ih =>
    rw [firstRepeated?]
    split
    · next h => simp [h]
    · next h =>
      rw [ih, List.nodup_cons]
      simp only [List.mem_cons, not_or]
      constructor
      · rintro ⟨nodup, apart⟩
        refine ⟨⟨fun hx => (apart x hx).1 rfl, nodup⟩, ?_⟩
        rintro y (rfl | hy)
        · exact h
        · exact (apart y hy).2
      · rintro ⟨⟨hx, nodup⟩, apart⟩
        exact ⟨nodup, fun y hy => ⟨fun e => hx (e ▸ hy), apart y (.inr hy)⟩⟩

/-- The values of a draft fit together. -/
structure IsBuildable (d : Draft) : Prop where
  target : d.target.isSome
  output : d.output.isSome
  /-- Only a dynamic library has an interface. -/
  interfaceOutput : d.interfaceOutput = none ∨ d.target = some .dynamicLibrary
  /-- No source is compiled twice. -/
  sources : (d.linkstamps.map (·.source)).Nodup
  /-- An archive action asks for nothing that only linking has. -/
  archive : d.isArchive → d.linkstamps = [] ∧ d.buildInfoHeaders = [] ∧
    d.staticness = .fullyStatic ∧ d.symbolCountsOutput = none ∧ d.runtimeSolibDir = none ∧
    d.useExecOrigin = false ∧ d.nativeDeps = false
  /-- An interface is made by a builder. -/
  builder : d.target = some .dynamicLibrary → d.interfaceOutput.isSome →
    d.interfaceSoBuilder.isSome

/-! Each group of rules says what one part of `IsBuildable` says. -/

theorem commonRules_hold_iff {d : Draft} (ht : d.target ≠ some .interfaceDynamicLibrary) :
    (∀ rule ∈ d.commonRules, rule.1 = true) ↔
      d.target.isSome ∧ d.output.isSome ∧
        (d.interfaceOutput = none ∨ d.target = some .dynamicLibrary) := by
  simp [commonRules, ht, or_comm]

theorem sourceRules_hold_iff {d : Draft} :
    (∀ rule ∈ d.sourceRules, rule.1 = true) ↔ (d.linkstamps.map (·.source)).Nodup := by
  have repeated : firstRepeated? [] (d.linkstamps.map (·.source)) = none ↔ _ :=
    firstRepeated?_eq_none_iff
  unfold sourceRules
  split
  · next h => simpa [h] using repeated
  · next h => simpa [h] using repeated

theorem archiveRules_hold_iff {d : Draft} :
    (∀ rule ∈ d.archiveRules, rule.1 = true) ↔
      d.linkstamps = [] ∧ d.buildInfoHeaders = [] ∧ d.staticness = .fullyStatic ∧
        d.symbolCountsOutput = none ∧ d.runtimeSolibDir = none ∧ d.useExecOrigin = false ∧
        d.nativeDeps = false := by
  simp only [archiveRules, List.forall_mem_cons, List.isEmpty_iff, decide_eq_true_eq,
    Option.isNone_iff_eq_none, Bool.not_eq_true', List.not_mem_nil, false_imp_iff,
    implies_true, and_true]
  tauto

/-- The rules of a draft hold when its values fit together. -/
theorem isBuildable_iff {d : Draft} (ht : d.target ≠ some .interfaceDynamicLibrary) :
    d.IsBuildable ↔ d.firstError? = none := by
  rw [firstError?_eq_none_iff, rules]
  simp only [List.forall_mem_append, commonRules_hold_iff ht, sourceRules_hold_iff]
  constructor
  · intro h
    refine ⟨⟨⟨⟨h.target, h.output, h.interfaceOutput⟩, h.sources⟩, ?_⟩, ?_⟩
    · split
      · next archive => exact archiveRules_hold_iff.2 (h.archive archive)
      · simp
    · rcases h.interfaceOutput with none | dynamic
      · simp [none]
      · cases hi : d.interfaceOutput with
        | none => simp
        | some interface => simpa using h.builder dynamic (by simp [hi])
  · rintro ⟨⟨⟨⟨target, output, interface⟩, sources⟩, archive⟩, builder⟩
    refine ⟨target, output, interface, sources, fun ha => ?_, fun _ hi => ?_⟩
    · rw [if_pos ha] at archive
      exact archiveRules_hold_iff.1 archive
    · have built : d.interfaceOutput.isNone ∨ d.interfaceSoBuilder.isSome := by simpa using builder
      exact built.resolve_left (by simp [Option.isSome_iff_ne_none.1 hi])

theorem build_eq_ok_iff {d : Draft} {a : Action} :
    d.build = .ok a ↔
      d.firstError? = none ∧ ∃ target, d.target = some target ∧ a = d.toAction target := by
  unfold build
  split
  · next h => simp [h]
  · next h ht => simp [h, ht, eq_comm]
  · next h ht => simp [ht]

/-- A builder comes with an interface, and with nothing else. -/
theorem IsBuildable.builder_iff {d : Draft} (h : d.IsBuildable) {target : TargetKind} :
    (d.toAction target).interfaceSoBuilder.isSome ↔ (d.toAction target).interfaceOutput.isSome := by
  rcases h.interfaceOutput with none | dynamic
  · simp [toAction, none]
  · cases hi : d.interfaceOutput with
    | none => simp [toAction, hi]
    | some interface => simpa [toAction, hi] using h.builder dynamic (by simp [hi])

/-- What is built comes from values that fit together. -/
theorem isBuildable_of_build {d : Draft} {a : Action} (h : d.build = .ok a) :
    d.IsBuildable ∧ ∃ target, d.target = some target ∧ target ≠ .interfaceDynamicLibrary ∧
      a = d.toAction target := by
  obtain ⟨rules, target, ht, rfl⟩ := build_eq_ok_iff.1 h
  have allowed : d.target ≠ some .interfaceDynamicLibrary := by
    have rule := firstError?_eq_none_iff.1 rules
      (d.target ≠ some .interfaceDynamicLibrary, .interfaceTarget)
      (by simp [Draft.rules, commonRules])
    simpa using rule
  refine ⟨(isBuildable_iff allowed).2 rules, target, ht, ?_, rfl⟩
  rintro rfl
  exact allowed ht

/-- What is built is no interface library, and has a builder just if it has an interface. -/
theorem target_and_builder_of_build {d : Draft} {a : Action} (h : d.build = .ok a) :
    a.target ≠ .interfaceDynamicLibrary ∧
      (a.interfaceSoBuilder.isSome ↔ a.interfaceOutput.isSome) := by
  obtain ⟨buildable, target, -, allowed, rfl⟩ := isBuildable_of_build h
  exact ⟨allowed, buildable.builder_iff⟩

/-- What is built has an output. -/
theorem exists_output_of_build {d : Draft} {a : Action} (h : d.build = .ok a) :
    ∃ output, a.output = some output := by
  obtain ⟨buildable, target, -, -, rfl⟩ := isBuildable_of_build h
  exact Option.isSome_iff_exists.1 buildable.output

/-- What is built compiles no source twice. -/
theorem nodup_sources_of_build {d : Draft} {a : Action} (h : d.build = .ok a) :
    (a.linkstamps.map (·.source)).Nodup := by
  obtain ⟨buildable, target, -, -, rfl⟩ := isBuildable_of_build h
  exact buildable.sources

/-- What is built as an archive compiles no linkstamps. -/
theorem linkstamps_of_build {d : Draft} {a : Action} (h : d.build = .ok a)
    (archive : a.target.isStaticLibrary = true) : a.linkstamps = [] := by
  obtain ⟨buildable, target, ht, -, rfl⟩ := isBuildable_of_build h
  exact (buildable.archive (by simpa [isArchive, ht, toAction] using archive)).1

/-- **A build after any session.** It succeeds exactly when the last values fit together, and gives
them all, but for what the target has no use for. -/
theorem build_run (tc : Toolchain) (owner : String) (calls : List Call) :
    let v := settled tc owner calls
    ((∃ a, ((fresh tc owner).run calls).build = .ok a) ↔ v.IsBuildable) ∧
      ∀ a, ((fresh tc owner).run calls).build = .ok a →
        (∃ target, v.target = some target ∧ a = {
          toolchain := tc
          ownerLabel := owner
          target := target
          staticness := v.staticness
          output := v.output
          interfaceOutput := v.interfaceOutput
          symbolCountsOutput := v.symbolCountsOutput
          buildInfoHeaders := v.buildInfoHeaders
          linkerInputs := v.linkerInputs
          runtimeInputs := v.runtimeInputs
          linkopts := if target.isStaticLibrary then [] else v.linkopts
          features := v.features
          linkstamps := v.linkstamps
          runtimeSolibDir := v.runtimeSolibDir
          nativeDeps := v.nativeDeps
          useExecOrigin := v.useExecOrigin
          interfaceSoBuilder :=
            if v.interfaceOutput.isSome then v.interfaceSoBuilder else none }) ∧
        a.target ≠ .interfaceDynamicLibrary ∧
        (a.interfaceSoBuilder.isSome ↔ a.interfaceOutput.isSome) := by
  intro v
  have buildable := isBuildable_iff (settled_target_ne tc owner calls)
  rw [run_eq_settled]
  constructor
  · rw [buildable]
    constructor
    · rintro ⟨a, h⟩
      exact (build_eq_ok_iff.1 h).1
    · intro h
      obtain ⟨target, ht⟩ := Option.isSome_iff_exists.1 (buildable.2 h).target
      exact ⟨v.toAction target, build_eq_ok_iff.2 ⟨h, target, ht, rfl⟩⟩
  · intro a h
    obtain ⟨rules, target, ht, rfl⟩ := build_eq_ok_iff.1 h
    refine ⟨⟨target, ht, rfl⟩, ?_, (buildable.2 rules).builder_iff⟩
    rintro interface
    exact settled_target_ne tc owner calls (ht.trans (congrArg some interface))

end LinkSynthesis.Draft

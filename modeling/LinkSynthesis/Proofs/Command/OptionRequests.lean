import LinkSynthesis.Proofs.Command.RawCommand
import LinkSynthesis.Proofs.RpathPlan.LimitedWalk

/-!
# Requests for search path options

Which search path options are asked for while a command is assembled. The assembly is run once more
with its requests recorded, and with a budget of steps for each walk up from the solib directory. It
always ends with the result of the assembly, even if no step may be taken: each request is made for
a directory under the solib directory or for the runtime directory (`assembly_isDirect`).
-/

namespace LinkSynthesis

/-- A request for the search path option of a library directory. -/
structure OptionRequest where
  plan : RpathPlan
  dir : Path
deriving DecidableEq

/-- An assembly whose requests are recorded. It has no outcome if a walk exceeds its budget. -/
abbrev Recorded : Type → Type := ExceptT AssemblyError (StateT (List OptionRequest) Option)

namespace Recorded

/-- The result of the assembly, and the requests in the order in which they were made. -/
def outcome? {α : Type} (run : Recorded α) :
    Option (Except AssemblyError α × List OptionRequest) :=
  run.run.run []

/-- Asks for the option of a library directory. -/
def request (budget : Nat) (plan : RpathPlan) (dir : Path) : Recorded (Option String) :=
  ExceptT.mk fun log =>
    (plan.libraryOptionWithin? budget dir).map fun answer => (answer, log ++ [⟨plan, dir⟩])

end Recorded

/-- From a directory under the solib directory there is an option, but for an absolute one under the
path without parts. -/
theorem RpathPlan.libraryOption_eq_error_of_isUnder {plan : RpathPlan} {dir : Path}
    {e : AssemblyError} (h : plan.libraryOption dir = .error e)
    (under : dir.isUnder plan.solibDir = true) :
    e = .noCommonAncestor dir plan.solibDir ∧ plan.solibDir.parts = [] ∧
      dir.isAbsolute = true := by
  unfold libraryOption at h
  split at h
  · cases h
  · split at h
    · next other =>
      cases h
      have noParts : plan.solibDir.parts = [] := by
        by_contra parts
        exact other (Path.isAbsolute_eq_of_anchor_eq (Path.anchor_eq_of_isUnder under parts))
      have relative : plan.solibDir.isAbsolute = false := by
        simp [Path.isAbsolute, (Path.parts_eq_nil_iff.1 noParts).1]
      refine ⟨rfl, noParts, ?_⟩
      rwa [relative, ne_eq, Bool.not_eq_false] at other
    · rw [Path.stepsToCommon?_of_isUnder under] at h
      cases h

namespace Action
open Recorded

/-! ### The recorded assembly -/

/-- The contribution of an input of a kind. -/
def recordContribution (a : Action) (budget : Nat) (plan : RpathPlan) (isRuntime : Bool)
    (input : LinkerInput) : Recorded Contribution := do
  let file ← Artifact.require input.artifact
  if file.isDynamicLibrary then
    if plan.accepts isRuntime file.parent then
      let rpath ← request budget plan file.parent
      return {
        tokens := [dynamicToken file]
        searchOptions := rpath.toList ++ ["-L" ++ file.parent.toString]
        needsRoot := plan.covers isRuntime file.parent }
    else throw (.outsideSolib file.execPath plan.solibDir)
  else return { tokens := ← a.staticTokens input }

/-- The input options. -/
def recordInputOptions (a : Action) (budget : Nat) (whole includeLinkopts : Bool) :
    Recorded (List String) := do
  let plan ← a.rpathPlan
  let linked ← a.linkerInputs.mapM (a.recordContribution budget plan false)
  let runtime ← a.runtimeInputs.mapM (a.recordContribution budget plan true)
  return a.arrange plan linked runtime whole includeLinkopts

/-- The raw command: an archive is made from its input options, a link has them in its frame. -/
def recordRawCommand (a : Action) (budget : Nat) : Recorded (List String) :=
  if a.target.isStaticLibrary then do
    let output ← Artifact.require a.output
    let inputs ← a.recordInputOptions budget false false
    return a.toolchain.ar :: a.toolchain.arFlagsFor (a.toolchain.archiveType = .thin) ++
      output.execPath :: inputs
  else do
    let frame ← a.linkFrame
    let inputs ← a.recordInputOptions budget a.needsWholeArchive true
    return (frame.before ++ inputs ++ frame.after).flatMap a.keep ++ a.fissionOption

/-! ### Requests without a walk -/

/-- A request of the assembly. It is made with the plan of the action, for a directory under the
solib directory or for the runtime directory. There is no option for the canonical directories; for
any other one the walk ends where it starts and the option is that of the place below the solib
directory. Only from a solib directory without parts no way leads to an absolute path. -/
structure IsDirect (a : Action) (r : OptionRequest) : Prop where
  plan_eq : a.rpathPlan = .ok r.plan
  place : r.dir.isUnder r.plan.solibDir = true ∨ some r.dir = r.plan.runtimeSolibDir
  answer :
    (r.dir = r.plan.solibDir ∨ some r.dir = r.plan.runtimeSolibDir) ∧
        r.plan.libraryOption r.dir = .ok none ∨
      (∃ place, r.plan.solibDir.descend place = r.dir ∧
        r.dir.ClimbsTo r.plan.solibDir 0 r.plan.solibDir ∧
        r.plan.libraryOption r.dir = .ok (some (r.plan.searchOption place))) ∨
      r.plan.solibDir.parts = [] ∧ r.dir.isAbsolute = true ∧
        r.plan.libraryOption r.dir = .error (.noCommonAncestor r.dir r.plan.solibDir)

variable {a : Action} {plan : RpathPlan} {dir : Path} {isRuntime : Bool} {input : LinkerInput}
  {budget : Nat}

theorem isDirect_of_accepts (hp : a.rpathPlan = .ok plan)
    (accepted : plan.accepts isRuntime dir = true) : a.IsDirect ⟨plan, dir⟩ := by
  have place : dir.isUnder plan.solibDir = true ∨ some dir = plan.runtimeSolibDir := by
    simp only [RpathPlan.accepts, Bool.or_eq_true, Bool.and_eq_true, decide_eq_true_eq] at accepted
    exact accepted.imp_right And.right
  refine ⟨hp, place, ?_⟩
  by_cases own : dir = plan.solibDir ∨ some dir = plan.runtimeSolibDir
  · exact .inl ⟨own, if_pos own⟩
  · simp only [not_or] at own
    have under := place.resolve_right own.2
    cases ho : plan.libraryOption dir with
    | ok option =>
      obtain ⟨absolute, rfl⟩ := plan.libraryOption_of_isUnder ho under own.1 own.2
      obtain ⟨anchor, segments⟩ := (Path.isUnder_iff_segments absolute).1 under
      exact .inr (.inl ⟨_, Path.descend_drop anchor segments, .stop under, rfl⟩)
    | error e =>
      obtain ⟨rfl, noParts, absolute⟩ := plan.libraryOption_eq_error_of_isUnder ho under
      exact .inr (.inr ⟨noParts, absolute, rfl⟩)

/-! ### Runs -/

/-- A recorded run ends with a result, all its requests are direct, and the walk is blamed only where
the solib directory has no parts. -/
structure Yields (a : Action) {α : Type} (run : Recorded α) (result : Except AssemblyError α) :
    Prop where
  ends : ∀ log, ∃ asked, run.run.run log = some (result, log ++ asked) ∧ ∀ r ∈ asked, a.IsDirect r
  blame : ∀ dir base, result = .error (.noCommonAncestor dir base) →
    base = a.solibDir ∧ a.solibDir.parts = []

variable {α β : Type}

theorem yields_pure (v : α) : a.Yields (pure v) (.ok v) where
  ends log := ⟨[], by rw [List.append_nil]; rfl, List.forall_mem_nil _⟩
  blame _ _ h := nomatch h

/-- A step that asks for nothing. -/
theorem yields_liftM {x : Except AssemblyError α}
    (other : ∀ dir base, x ≠ .error (.noCommonAncestor dir base)) : a.Yields (liftM x) x where
  ends log := ⟨[], by rw [List.append_nil]; rfl, List.forall_mem_nil _⟩
  blame dir base h := absurd h (other dir base)

theorem yields_request (hp : a.rpathPlan = .ok plan)
    (accepted : plan.accepts isRuntime dir = true) (budget : Nat) :
    a.Yields (request budget plan dir) (plan.libraryOption dir) where
  ends log := by
    refine ⟨[⟨plan, dir⟩], ?_, List.forall_mem_singleton.2 (isDirect_of_accepts hp accepted)⟩
    have answer := plan.libraryOptionWithin?_of_accepts accepted budget
    show (plan.libraryOptionWithin? budget dir).map _ = _
    rw [answer]
    rfl
  blame dir' base h := by
    rw [← (rpathPlan_dirs hp).1]
    rcases (isDirect_of_accepts hp accepted).answer with ⟨-, none⟩ | ⟨place, -, -, some⟩ |
      ⟨noParts, -, error⟩
    · cases h.symm.trans none
    · cases h.symm.trans some
    · cases h.symm.trans error
      exact ⟨rfl, noParts⟩

/-- Runs in a row. -/
theorem Yields.bind {run : Recorded α} {result : Except AssemblyError α} {f : α → Recorded β}
    {g : α → Except AssemblyError β} (first : a.Yields run result)
    (rest : ∀ v, result = .ok v → a.Yields (f v) (g v)) : a.Yields (run >>= f) (result >>= g) where
  ends log := by
    obtain ⟨asked, ran, direct⟩ := first.ends log
    cases result with
    | error e =>
      refine ⟨asked, ?_, direct⟩
      rw [ExceptT.run_bind, StateT.run_bind, ran]
      rfl
    | ok v =>
      obtain ⟨further, ran', direct'⟩ := (rest v rfl).ends (log ++ asked)
      refine ⟨asked ++ further, ?_, List.forall_mem_append.2 ⟨direct, direct'⟩⟩
      rw [ExceptT.run_bind, StateT.run_bind, ran, ← List.append_assoc]
      exact ran'
  blame dir base h := by
    cases result with
    | error e => exact first.blame dir base (by cases h; rfl)
    | ok v => exact (rest v rfl).blame dir base h

theorem Yields.map {run : Recorded α} {result : Except AssemblyError α}
    (h : a.Yields run result) (f : α → β) : a.Yields (f <$> run) (result.map f) := by
  have steps : result.map f = result >>= fun v => .ok (f v) := by cases result <;> rfl
  rw [map_eq_pure_bind, steps]
  exact h.bind fun v _ => yields_pure (f v)

theorem yields_mapM {γ : Type} {f : γ → Recorded α} {g : γ → Except AssemblyError α} {l : List γ}
    (h : ∀ z ∈ l, a.Yields (f z) (g z)) : a.Yields (l.mapM f) (l.mapM g) := by
  induction l with
  | nil => exact yields_pure []
  | cons z l ih =>
    obtain ⟨first, others⟩ := List.forall_mem_cons.1 h
    rw [List.mapM_cons, List.mapM_cons]
    exact first.bind fun v _ => (ih others).bind fun vs _ => yields_pure (v :: vs)

/-! ### Steps that ask for nothing -/

section Others

variable {base : Path}

theorem require_ne_noCommonAncestor (file : Option Artifact) :
    Artifact.require file ≠ .error (.noCommonAncestor dir base) := by
  cases file with
  | none => rintro ⟨⟩
  | some file => rintro ⟨⟩

theorem staticTokens_ne_noCommonAncestor (input : LinkerInput) :
    a.staticTokens input ≠ .error (.noCommonAncestor dir base) := by
  unfold staticTokens
  refine bind_ne_error (require_ne_noCommonAncestor _) fun file => bind_ne_error ?_ fun grouped => ?_
  · unfold usesStartEndLib
    split
    · split
      · exact bind_ne_error (require_ne_noCommonAncestor _) fun archive => nofun
      · nofun
    · nofun
  · split
    · exact bind_ne_error (mapM_ne_error fun member _ => require_ne_noCommonAncestor member)
        fun members => nofun
    · split <;> nofun

theorem rpathPlan_ne_noCommonAncestor : a.rpathPlan ≠ .error (.noCommonAncestor dir base) := by
  have depth : a.outputDepth ≠ .error (.noCommonAncestor dir base) := by
    refine bind_ne_error (require_ne_noCommonAncestor _) fun output => ?_
    split <;> nofun
  unfold rpathPlan
  dsimp only
  split
  · nofun
  · exact bind_ne_error depth fun depth => nofun

theorem linkFrame_ne_noCommonAncestor : a.linkFrame ≠ .error (.noCommonAncestor dir base) := by
  have wrapper : a.linkWrapper ≠ .error (.noCommonAncestor dir base) := by
    unfold linkWrapper
    split
    · unfold interfaceWrapper
      split
      · nofun
      · exact bind_ne_error (require_ne_noCommonAncestor _) fun builder =>
          bind_ne_error (require_ne_noCommonAncestor _) fun output => nofun
    · nofun
    · nofun
  exact bind_ne_error wrapper fun wrapper =>
    bind_ne_error (mapM_ne_error fun object _ => require_ne_noCommonAncestor object) fun objects =>
      bind_ne_error (require_ne_noCommonAncestor _) fun output => nofun

end Others

/-! ### The assembly step by step -/

/-- An input asks only for the option of a directory that its kind accepts. -/
theorem yields_recordContribution (hp : a.rpathPlan = .ok plan) (isRuntime : Bool)
    (input : LinkerInput) : a.Yields (a.recordContribution budget plan isRuntime input)
      (a.contributionOf plan isRuntime input) := by
  rw [contributionOf_eq]
  refine (yields_liftM fun _ _ => require_ne_noCommonAncestor _).bind fun file _ => ?_
  split
  · split
    · next accepted =>
      exact (yields_request hp accepted budget).bind fun option _ => yields_pure _
    · exact yields_liftM (x := throw _) fun _ _ => nofun
  · exact (yields_liftM fun _ _ => staticTokens_ne_noCommonAncestor input).bind
      fun tokens _ => yields_pure _

theorem yields_recordInputOptions (budget : Nat) (whole includeLinkopts : Bool) :
    a.Yields (a.recordInputOptions budget whole includeLinkopts)
      (a.inputOptions whole includeLinkopts) := by
  refine (yields_liftM fun _ _ => rpathPlan_ne_noCommonAncestor).bind fun plan hp => ?_
  refine (yields_mapM fun input _ => yields_recordContribution hp false input).bind
    fun linked _ => ?_
  exact (yields_mapM fun input _ => yields_recordContribution hp true input).bind
    fun runtime _ => yields_pure _

theorem yields_recordRawCommand (budget : Nat) :
    a.Yields (a.recordRawCommand budget) a.rawCommand := by
  unfold recordRawCommand
  split
  · next archive =>
    rw [rawCommand_eq_archiver archive]
    exact (yields_liftM fun _ _ => require_ne_noCommonAncestor _).bind fun output _ =>
      (yields_recordInputOptions budget false false).bind fun inputs _ => yields_pure _
  · next link =>
    rw [rawCommand_eq_frame (by simpa using link)]
    exact (yields_liftM fun _ _ => linkFrame_ne_noCommonAncestor).bind fun frame _ =>
      (yields_recordInputOptions budget a.needsWholeArchive true).bind fun inputs _ =>
        yields_pure _

theorem Yields.exists_outcome? {run : Recorded α} {result : Except AssemblyError α}
    (h : a.Yields run result) :
    ∃ asked, run.outcome? = some (result, asked) ∧ ∀ r ∈ asked, a.IsDirect r :=
  h.ends []

/-- **No assembly walks.** With any budget of steps for a walk, none included, the input options and
the raw command of every action have an outcome, which is that of the assembly itself, and every
request is direct. So an assembly fails for want of a common ancestor only if its solib directory has
no parts. A request from elsewhere need not end: within a budget the option is the same, but between
different roots no budget suffices. -/
theorem assembly_isDirect (a : Action) (budget : Nat) (arguments : List String)
    (whole includeLinkopts : Bool) :
    (∃ asked, ((arguments ++ ·) <$> a.recordInputOptions budget whole includeLinkopts).outcome? =
        some (a.appendInputOptions arguments whole includeLinkopts, asked) ∧
      ∀ r ∈ asked, a.IsDirect r) ∧
    (∃ asked, (a.recordRawCommand budget).outcome? = some (a.rawCommand, asked) ∧
      ∀ r ∈ asked, a.IsDirect r) ∧
    (∀ dir base, a.appendInputOptions arguments whole includeLinkopts =
          .error (.noCommonAncestor dir base) ∨
        a.rawCommand = .error (.noCommonAncestor dir base) →
      base = a.solibDir ∧ a.solibDir.parts = []) ∧
    ∀ (plan : RpathPlan) (dir : Path),
      (∀ answer, plan.libraryOptionWithin? budget dir = some answer →
        plan.libraryOption dir = answer) ∧
      ((∀ budget, plan.libraryOptionWithin? budget dir = none) ↔ plan.IsEndless dir) := by
  have options := (yields_recordInputOptions (a := a) budget whole includeLinkopts).map
    (arguments ++ ·)
  have command := yields_recordRawCommand (a := a) budget
  refine ⟨options.exists_outcome?, command.exists_outcome?, fun dir base failed => ?_,
    fun plan dir => ⟨fun answer => plan.libraryOption_of_within,
      plan.forall_libraryOptionWithin?_eq_none_iff⟩⟩
  exact failed.elim (options.blame dir base) (command.blame dir base)

/-- An executable in an output tree at the root. -/
def gatewayOutput : Artifact := ⟨"/out/bin/pkg/gateway", "/out/bin", by decide, by decide +kernel⟩

/-- A library in a directory below the solib directory. -/
def gatewayLibrary : Artifact := ⟨"/out/bin/_solib/net/libnet.so", "", by decide, .inl rfl⟩

/-- A library of the runtime, at another root. -/
def gatewayRuntime : Artifact := ⟨"//rt/libc++.so.1", "", by decide, .inl rfl⟩

/-- The link of the executable with both libraries. -/
def gatewayAction : Action where
  toolchain := { binDir := "/out/bin", solibDirectory := "_solib" }
  ownerLabel := "//pkg:gateway"
  target := .executable
  staticness := .dynamic
  output := some gatewayOutput
  linkerInputs := [.plain (some gatewayLibrary)]
  runtimeInputs := [.plain (some gatewayRuntime)]
  runtimeSolibDir := some "//rt"

/-- The search paths of the executable. -/
def gatewayPlan : RpathPlan where
  solibDir := Path.parse "/out/bin/_solib"
  runtimeSolibDir := some (Path.parse "//rt")
  root := "-Wl,-rpath,$ORIGIN/../_solib/"
  runtimeOption := some "-Wl,-rpath,$ORIGIN/../rt/"

theorem assembly_gatewayAction :
    (gatewayAction.recordRawCommand 0).outcome? = some (.ok ["/usr/bin/gcc", "-o",
        "/out/bin/pkg/gateway", "-Wl,-rpath,$ORIGIN/../rt/", "-Wl,-rpath,$ORIGIN/../_solib/",
        "-Wl,-rpath,$ORIGIN/../_solib/net", "-L/out/bin/_solib/net", "-L//rt", "-lnet",
        "//rt/libc++.so.1"],
      [⟨gatewayPlan, Path.parse "/out/bin/_solib/net"⟩, ⟨gatewayPlan, Path.parse "//rt"⟩]) ∧
    gatewayAction.IsDirect ⟨gatewayPlan, Path.parse "//rt"⟩ ∧
    ∀ budget, gatewayPlan.libraryOptionWithin? budget (Path.parse "//rt/net") = none := by
  have outcome : (gatewayAction.recordRawCommand 0).outcome? = some (.ok ["/usr/bin/gcc", "-o",
        "/out/bin/pkg/gateway", "-Wl,-rpath,$ORIGIN/../rt/", "-Wl,-rpath,$ORIGIN/../_solib/",
        "-Wl,-rpath,$ORIGIN/../_solib/net", "-L/out/bin/_solib/net", "-L//rt", "-lnet",
        "//rt/libc++.so.1"],
      [⟨gatewayPlan, Path.parse "/out/bin/_solib/net"⟩, ⟨gatewayPlan, Path.parse "//rt"⟩]) := by
    decide +kernel
  obtain ⟨-, ⟨asked, ran, direct⟩, -, walks⟩ := assembly_isDirect gatewayAction 0 [] false true
  obtain ⟨-, rfl⟩ := Prod.mk.inj (Option.some.inj (ran.symm.trans outcome))
  refine ⟨outcome, direct _ (by simp), (walks gatewayPlan _).2.2 ?_⟩
  constructor <;> decide +kernel

end Action
end LinkSynthesis

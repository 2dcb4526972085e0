import LinkSynthesis.Proofs.Action.DraftSession
import LinkSynthesis.Proofs.Command.RawCommand

/-!
# What an archive command depends on

An archive action has a core: its files, the archiver with its flags, and the directories where
libraries are collected. Its command is that of the core, so all that concerns linking can change
without a trace in it (`rawCommand_eq_of_agree`).
-/

namespace LinkSynthesis

/-! ### Cores -/

/-- The part of a toolchain that archives are made with. -/
def Toolchain.archiveCore (tc : Toolchain) : Toolchain where
  ar := tc.ar
  arFlags := tc.arFlags
  arThinFlags := tc.arThinFlags
  archiveType := tc.archiveType
  binDir := tc.binDir
  solibDirectory := tc.solibDirectory

namespace Action

variable {a : Action}

/-- The part of an action that an archive is made of. -/
def archiveCore (a : Action) : Action where
  toolchain := a.toolchain.archiveCore
  ownerLabel := ""
  target := .staticLibrary
  staticness := .fullyStatic
  output := a.output
  linkerInputs := a.linkerInputs
  runtimeInputs := a.runtimeInputs

/-- The action makes an archive and asks for nothing that only linking has. -/
structure IsArchiving (a : Action) : Prop where
  target : a.target.isStaticLibrary = true
  runtimeSolibDir : a.runtimeSolibDir = none
  nativeDeps : a.nativeDeps = false
  useExecOrigin : a.useExecOrigin = false

/-! ### Commands of cores -/

namespace IsArchiving

variable (h : a.IsArchiving)

include h

theorem wantsRuntimeRpath_eq_false : a.wantsRuntimeRpath = false := by
  rw [wantsRuntimeRpath, h.runtimeSolibDir]
  rfl

/-- No runtime directory is searched, and nothing is shared. -/
theorem rpathPlan_archiveCore : a.archiveCore.rpathPlan = a.rpathPlan := by
  have depth : a.archiveCore.outputDepth = a.outputDepth := rfl
  have core : a.archiveCore.isSharedNativeLibrary = false := rfl
  have shared : a.isSharedNativeLibrary = false := by
    rw [isSharedNativeLibrary, h.nativeDeps, Bool.false_and]
  have origin : a.origin = a.archiveCore.origin := by
    rw [Action.origin, h.useExecOrigin]
    rfl
  unfold rpathPlan
  rw [core, shared, depth, h.wantsRuntimeRpath_eq_false, origin, h.nativeDeps, h.runtimeSolibDir]
  rfl

/-- An archive has no markers, whatever the linker of its toolchain. -/
theorem arrange_archiveCore (plan : RpathPlan) (linked runtime : List Contribution) :
    a.archiveCore.arrange plan linked runtime false false =
      a.arrange plan linked runtime false false := by
  unfold arrange
  rw [h.target]
  rfl

theorem inputOptions_archiveCore :
    a.archiveCore.inputOptions false false = a.inputOptions false false := by
  have linked (plan : RpathPlan) :
      a.archiveCore.linkerContribution plan = a.linkerContribution plan := rfl
  have runtime (plan : RpathPlan) :
      a.archiveCore.runtimeContribution plan = a.runtimeContribution plan := rfl
  unfold inputOptions
  simp only [h.rpathPlan_archiveCore, linked, runtime, h.arrange_archiveCore]
  rfl

theorem archiverCommand_archiveCore : a.archiveCore.archiverCommand = a.archiverCommand := by
  unfold archiverCommand
  rw [h.inputOptions_archiveCore]
  rfl

theorem rawCommand_eq : a.rawCommand = a.archiverCommand := rawCommand_eq_archiver h.target

/-- The command of an archive action is that of its core. -/
theorem rawCommand_archiveCore : a.archiveCore.rawCommand = a.rawCommand := by
  rw [h.rawCommand_eq, ← h.archiverCommand_archiveCore]
  rfl

end IsArchiving

theorem isArchiving_of_build {d : Draft} (built : d.build = .ok a) (archive : d.isArchive = true) :
    a.IsArchiving := by
  obtain ⟨buildable, target, ht, -, rfl⟩ := Draft.isBuildable_of_build built
  obtain ⟨-, -, -, -, dir, execOrigin, native⟩ := buildable.archive archive
  rw [Draft.isArchive, ht, Option.any_some] at archive
  exact ⟨archive, dir, native, execOrigin⟩

end Action

/-! ### Drafts that agree on what an archive is made of -/

/-- Two drafts have the same files, and the same archiver and directories in their toolchains.
Anything else may differ. -/
structure Draft.AgreeOnArchive (d d' : Draft) : Prop where
  output : d.output = d'.output
  linkerInputs : d.linkerInputs = d'.linkerInputs
  runtimeInputs : d.runtimeInputs = d'.runtimeInputs
  ar : d.toolchain.ar = d'.toolchain.ar
  arFlags : d.toolchain.arFlags = d'.toolchain.arFlags
  arThinFlags : d.toolchain.arThinFlags = d'.toolchain.arThinFlags
  archiveType : d.toolchain.archiveType = d'.toolchain.archiveType
  binDir : d.toolchain.binDir = d'.toolchain.binDir
  solibDirectory : d.toolchain.solibDirectory = d'.toolchain.solibDirectory

theorem Draft.AgreeOnArchive.archiveCore_eq {d d' : Draft} (h : d.AgreeOnArchive d')
    (target target' : TargetKind) :
    (d.toAction target).archiveCore = (d'.toAction target').archiveCore := by
  have toolchain : d.toolchain.archiveCore = d'.toolchain.archiveCore := by
    rw [Toolchain.archiveCore, h.ar, h.arFlags, h.arThinFlags, h.archiveType, h.binDir,
      h.solibDirectory]
    rfl
  unfold Action.archiveCore Draft.toAction
  rw [toolchain, h.output, h.linkerInputs, h.runtimeInputs]

namespace Action

/-- **Archives ignore what concerns linking.** Two built archive actions of any kinds that agree on
their files, the archiver and the directories have the same command, or the same error. -/
theorem rawCommand_eq_of_agree {d d' : Draft} {a a' : Action} (agree : d.AgreeOnArchive d')
    (archive : d.isArchive = true) (archive' : d'.isArchive = true)
    (built : d.build = .ok a) (built' : d'.build = .ok a') : a.rawCommand = a'.rawCommand := by
  have archiving := isArchiving_of_build built archive
  have archiving' := isArchiving_of_build built' archive'
  obtain ⟨-, target, -, -, rfl⟩ := Draft.isBuildable_of_build built
  obtain ⟨-, target', -, -, rfl⟩ := Draft.isBuildable_of_build built'
  rw [← archiving.rawCommand_archiveCore, ← archiving'.rawCommand_archiveCore,
    agree.archiveCore_eq target target']

/-- An archive. -/
def netArchive : Artifact :=
  ⟨"buck-out/bin/net/libnet.a", "buck-out/bin", by decide, by decide +kernel⟩

/-- An archive that goes into another one. -/
def dnsArchive : Artifact := ⟨"buck-out/bin/net/libdns.lo", "", by decide, .inl rfl⟩

/-- A shared library of the runtime. -/
def unwindLibrary : Artifact :=
  ⟨"buck-out/bin/_solib_k8/rt/libunwind.so.8", "", by decide, .inl rfl⟩

/-- An archive action of a plain toolchain. -/
def plainArchiveDraft : Draft where
  toolchain := {}
  ownerLabel := "//net:net"
  target := some .staticLibrary
  output := some netArchive
  linkerInputs := [.plain (some dnsArchive)]
  runtimeInputs := [.plain (some unwindLibrary)]

/-- The same files, for another kind of archive, under a toolchain that links otherwise. -/
def loadedArchiveDraft : Draft where
  toolchain := {
    compiler := "clang"
    targetLibc := "macosx"
    sysroot := some "/sysroot"
    linkFlags := ["-shared"]
    fdoMode := some .autofdo
    useFission := true
    forcePic := true
    coverage := true
    shareNativeDeps := true
    legacyWholeArchive := true }
  ownerLabel := "//other:label"
  target := some .alwaysLinkPicStaticLibrary
  output := some netArchive
  linkerInputs := [.plain (some dnsArchive)]
  runtimeInputs := [.plain (some unwindLibrary)]
  linkopts := ["-shared", "-lm"]
  features := .ofList ["thin_lto"]
  interfaceSoBuilder := some dnsArchive

theorem rawCommand_loadedArchive : ∃ a a',
    plainArchiveDraft.build = .ok a ∧ loadedArchiveDraft.build = .ok a' ∧
      a.toolchain ≠ a'.toolchain ∧ a'.rawCommand = .ok ["/usr/bin/ar", "rcsD",
        "buck-out/bin/net/libnet.a", "-Wl,-rpath,$ORIGIN/../_solib_k8/rt",
        "-Lbuck-out/bin/_solib_k8/rt", "buck-out/bin/net/libdns.lo",
        "buck-out/bin/_solib_k8/rt/libunwind.so.8"] := by
  have built : plainArchiveDraft.build =
      .ok (plainArchiveDraft.toAction .staticLibrary) := rfl
  have built' : loadedArchiveDraft.build =
      .ok (loadedArchiveDraft.toAction .alwaysLinkPicStaticLibrary) := rfl
  have agree : plainArchiveDraft.AgreeOnArchive loadedArchiveDraft := by
    constructor <;> rfl
  refine ⟨_, _, built, built', by decide, ?_⟩
  rw [← rawCommand_eq_of_agree agree rfl rfl built built']
  decide +kernel

end Action

end LinkSynthesis

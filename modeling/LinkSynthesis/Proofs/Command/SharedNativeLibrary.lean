import LinkSynthesis.Command.FinalCommand
import LinkSynthesis.Proofs.Results

/-!
# Shared native libraries

A library of native dependencies that several targets share is one file, seen from directories of
different depths. So nothing in its commands may tell which target asked for it, and nothing in its
input options where it lies (`commands_eq_of_isSharedNativeLibrary`).
-/

namespace LinkSynthesis.Action

variable {a : Action}

/-- The same action, asked for by another target. -/
def askedBy (a : Action) (label : String) : Action := { a with ownerLabel := label }

/-- The same action with its output in another place. -/
def placedAt (a : Action) (output : Option Artifact) : Action := { a with output }

/-! ### Who asks -/

/-- A raw command names no target. -/
theorem rawCommand_askedBy (a : Action) (label : String) :
    (a.askedBy label).rawCommand = a.rawCommand := rfl

section

variable (shared : a.isSharedNativeLibrary = true)

include shared

/-- A shared library is named by its own path. -/
theorem stampLabel_of_shared :
    a.stampLabel = (Artifact.require a.output).map (·.execPath) := by
  rw [stampLabel, if_pos shared]

theorem stampLabel_askedBy (label : String) : (a.askedBy label).stampLabel = a.stampLabel := by
  have shared' : (a.askedBy label).isSharedNativeLibrary = true := shared
  rw [stampLabel_of_shared shared, stampLabel_of_shared shared']
  rfl

theorem stampCommands_askedBy (label objectPrefix : String) :
    (a.askedBy label).stampCommands objectPrefix = a.stampCommands objectPrefix := by
  unfold stampCommands
  rw [stampLabel_askedBy shared]
  rfl

theorem arguments_askedBy (label : String) : (a.askedBy label).arguments = a.arguments := by
  unfold arguments finalCommand
  rw [rawCommand_askedBy, stampCommands_askedBy shared]
  rfl

/-! ### Where the output lies -/

/-- The libraries are searched in the directory of the output and in the solib directory below it,
whatever the depth. -/
theorem rpathPlan_of_shared : a.rpathPlan = .ok {
    solibDir := a.solibDir
    runtimeSolibDir := a.runtimeSolibDir.map Path.parse
    root := "-Wl,-rpath," ++ a.origin ++ ":" ++ a.origin ++ a.toolchain.solibDirectory ++ "/"
    runtimeOption :=
      if a.wantsRuntimeRpath then (a.runtimeSolibDir.map Path.parse).map fun dir =>
        "-Wl,-rpath," ++ a.origin ++ "../" ++ dir.name ++ "/" else none } := by
  rw [rpathPlan, if_pos shared]
  rfl

theorem rpathPlan_placedAt (output : Option Artifact) :
    (a.placedAt output).rpathPlan = a.rpathPlan := by
  have shared' : (a.placedAt output).isSharedNativeLibrary = true := shared
  rw [rpathPlan_of_shared shared, rpathPlan_of_shared shared']
  rfl

theorem inputOptions_placedAt (output : Option Artifact) (whole includeLinkopts : Bool) :
    (a.placedAt output).inputOptions whole includeLinkopts =
      a.inputOptions whole includeLinkopts := by
  unfold inputOptions
  rw [rpathPlan_placedAt shared]
  rfl

end

/-- **A shared native library is the same for everyone.** Asked for by another target, it has the
same commands or the same error. With its output in another place too, it still has the same input
options or the same error, so no search path depends on how deep the output lies. -/
theorem commands_eq_of_isSharedNativeLibrary (shared : a.isSharedNativeLibrary = true)
    (label : String) :
    (a.askedBy label).arguments = a.arguments ∧
      (a.askedBy label).rawCommand = a.rawCommand ∧
      (∀ objectPrefix,
        (a.askedBy label).stampCommands objectPrefix = a.stampCommands objectPrefix) ∧
      ∀ output arguments whole includeLinkopts,
        ((a.askedBy label).placedAt output).appendInputOptions arguments whole includeLinkopts =
          a.appendInputOptions arguments whole includeLinkopts := by
  refine ⟨arguments_askedBy shared label, rawCommand_askedBy a label,
    stampCommands_askedBy shared label, ?_⟩
  intro output arguments whole includeLinkopts
  have shared' : (a.askedBy label).isSharedNativeLibrary = true := shared
  unfold appendInputOptions
  rw [inputOptions_placedAt shared']
  rfl

/-- A library of native dependencies. -/
def nativeOutput : Artifact :=
  ⟨"buck-out/bin/java/app/libnative.so", "buck-out/bin", by decide, by decide +kernel⟩

/-- The library at the top of the output tree. -/
def topOutput : Artifact :=
  ⟨"buck-out/bin/libnative.so", "buck-out/bin", by decide, by decide +kernel⟩

/-- A shared library below the solib directory. -/
def cryptoLibrary : Artifact :=
  ⟨"buck-out/bin/_solib_k8/crypto/libcrypto.so", "", by decide, .inl rfl⟩

/-- A shared library of the runtime, in its own directory. -/
def nativeRuntime : Artifact := ⟨"buck-out/bin/_rt/libc++.so", "", by decide, .inl rfl⟩

/-- The source of the linkstamp. -/
def buildStamp : Artifact := ⟨"java/build_stamp.cc", "", by decide, .inl rfl⟩

/-- The object of the linkstamp. -/
def buildStampObject : Artifact := ⟨"buck-out/bin/java/build_stamp.o", "", by decide, .inl rfl⟩

/-- The link of the library. -/
def nativeAction : Action where
  toolchain := { shareNativeDeps := true }
  ownerLabel := "//java/app:app"
  target := .dynamicLibrary
  staticness := .dynamic
  output := some nativeOutput
  linkerInputs := [.plain (some cryptoLibrary)]
  runtimeInputs := [.plain (some nativeRuntime)]
  linkstamps := [⟨some buildStamp, some buildStampObject⟩]
  runtimeSolibDir := some "buck-out/bin/_rt"
  nativeDeps := true

theorem commands_of_nativeAction :
    nativeAction.isSharedNativeLibrary = true ∧
      (nativeAction.askedBy "//kotlin:tool").stampCommands "" = .ok [
        "/usr/bin/gcc '-DG3_VERSION_INFO=\"buck-out/bin/java/app/libnative.so\"' " ++
        "'-DG3_TARGET_NAME=\"buck-out/bin/java/app/libnative.so\"' " ++
        "'-DG3_BUILD_TARGET=\"buck-out/bin/java/app/libnative.so\"' " ++
        "'-DGPLATFORM=\"k8-gcc\"' -I. -fPIC -c java/build_stamp.cc " ++
        "-o buck-out/bin/java/build_stamp.o"] ∧
      ((nativeAction.askedBy "//kotlin:tool").placedAt (some topOutput)).appendInputOptions []
        false true = .ok ["-Wl,-rpath,$ORIGIN/../_rt/", "-Wl,-rpath,$ORIGIN/:$ORIGIN/_solib_k8/",
          "-Wl,-rpath,$ORIGIN/:$ORIGIN/_solib_k8/crypto", "-Lbuck-out/bin/_solib_k8/crypto",
          "-Lbuck-out/bin/_rt", "-lcrypto", "-lc++"] := by
  have shared : nativeAction.isSharedNativeLibrary = true := rfl
  obtain ⟨-, -, stamps, options⟩ := commands_eq_of_isSharedNativeLibrary shared "//kotlin:tool"
  refine ⟨shared, ?_, ?_⟩
  · rw [stamps]
    decide +kernel
  · rw [options]
    decide +kernel

end LinkSynthesis.Action

import LinkSynthesis.Proofs.Command.RawCommand
import LinkSynthesis.Shell.Parameters

/-!
# Interface libraries

A dynamic library that comes with an interface library is linked by a script, which then has the
interface made from the output. The wrapper changes nothing about the link: the words that the
script runs first are the raw command of the same action without an interface
(`rawCommand_of_interface`).
-/

namespace LinkSynthesis
open Shell

/-! ### The script -/

/-- The statements and commands of the interface script. -/
def interfaceStatements : Script where
  statements := [
    .assign "build_iface_so" (.position 0), .assign "impl" (.position 1),
    .assign "iface" (.position 2), .assign "cmd" (.position 3), .shift 3]
  commands := [
    [.one (.variable "cmd"), .arguments],
    [.one (.variable "build_iface_so"), .one (.variable "impl"), .one (.variable "iface")]]

theorem ofString?_interfaceScript :
    Script.ofString? interfaceScript = some interfaceStatements := by
  decide +kernel

/-- The arguments in front of the program are kept in variables, and the shift leaves the program
out too, so that it is run with its own arguments. -/
theorem commands?_interfaceStatements (builder output interface program : String)
    (arguments : List String) :
    interfaceStatements.commands? ⟨builder, output :: interface :: program :: arguments, []⟩ =
      some [program :: arguments, [builder, output, interface]] := by
  have kept : interfaceStatements.statements.foldlM Parameters.step?
      ⟨builder, output :: interface :: program :: arguments, []⟩ =
        some ⟨builder, arguments, [("cmd", program), ("iface", interface), ("impl", output),
          ("build_iface_so", builder)]⟩ := by
    simp [interfaceStatements, Parameters.step?, Parameters.value?]
  rw [Script.commands?, kept]
  simp [interfaceStatements, Parameters.expand?, Parameters.value?, List.lookup_cons]

theorem callCommands?_interfaceScript (sh builder output interface : String)
    {command : List String} (h : command ≠ []) :
    callCommands? ([sh, "-c", interfaceScript, builder, output, interface] ++ command) =
      some [command, [builder, output, interface]] := by
  obtain ⟨program, arguments, rfl⟩ := List.exists_cons_of_ne_nil h
  have read : callCommands? (sh :: "-c" :: interfaceScript :: builder :: output :: interface ::
      program :: arguments) = (Script.ofString? interfaceScript).bind fun script =>
        script.commands? ⟨builder, output :: interface :: program :: arguments, []⟩ := rfl
  rw [ofString?_interfaceScript, Option.bind_some, commands?_interfaceStatements] at read
  exact read

/-! ### The link -/

namespace Action

variable {a : Action} {interface builder output : Artifact}

/-- The same action without an interface library. -/
def withoutInterface (a : Action) : Action :=
  { a with interfaceOutput := none, interfaceSoBuilder := none }

/-- The link of a dynamic library that comes alone. -/
theorem rawCommand_withoutInterface (ht : a.target = .dynamicLibrary) :
    a.withoutInterface.rawCommand =
      a.compilerCommand.map fun compiler => compiler.filter (· != "-pie") ++ a.fissionOption := by
  have plain : a.withoutInterface.rawCommand = (do
      let command ← a.compilerCommand
      return ([] ++ command).filter (· != "-pie") ++ a.fissionOption) := by
    unfold rawCommand
    rw [show a.withoutInterface.target = .dynamicLibrary from ht]
    rfl
  rw [plain]
  cases a.compilerCommand <;> rfl

/-- Without an output a link fails like its wrapper. -/
theorem compilerCommand_of_output_eq_none (ho : a.output = none) :
    a.compilerCommand = .error .absentArtifact := by
  unfold compilerCommand
  cases objects : a.linkstampObjects.mapM Artifact.require with
  | ok => simp [ho]
  | error e => rw [Artifact.eq_absentArtifact_of_mapM_require objects, except_bind_error]

/-- The shell with the interface script and its first three parameters. -/
def interfaceCall (a : Action) (builder output interface : Artifact) : List String :=
  [a.toolchain.shExecutable, "-c", interfaceScript, builder.execPath, output.execPath,
    interface.execPath]

/-- With an interface library the link stands behind the call of the script. -/
theorem rawCommand_interface (ht : a.target = .dynamicLibrary)
    (hi : a.interfaceOutput = some interface) (hb : a.interfaceSoBuilder = some builder)
    (ho : a.output = some output) (pie : "-pie" ∉ a.interfaceCall builder output interface) :
    a.rawCommand =
      a.withoutInterface.rawCommand.map (a.interfaceCall builder output interface ++ ·) := by
  have wrapper : a.interfaceWrapper = .ok (a.interfaceCall builder output interface) := by
    rw [interfaceWrapper, hi, hb, ho]
    rfl
  have kept : (a.interfaceCall builder output interface).filter (· != "-pie") =
      a.interfaceCall builder output interface := by
    refine List.filter_eq_self.2 fun token ht => bne_iff_ne.2 ?_
    rintro rfl
    exact pie ht
  rw [rawCommand_withoutInterface ht, rawCommand, ht]
  simp only [wrapper, except_bind_ok, List.filter_append, kept]
  cases a.compilerCommand <;> simp [Except.map]

/-- **The wrapper of interface libraries.** Take the link of a dynamic library that comes with an
interface library, where neither the shell nor one of the three files has the path `-pie`. With and
without the interface the action fails alike, or the raw command is that of the plain link behind
the script, the builder, the output and the interface. The shell then runs the plain link, word for
word, and behind it the builder with the output and the interface. The plain link has the arguments
of the compiler without `-pie`, in their order, and the option of the debug index behind them. -/
theorem rawCommand_of_interface (ht : a.target = .dynamicLibrary)
    (hi : a.interfaceOutput = some interface) (hb : a.interfaceSoBuilder = some builder)
    (pie : "-pie" ∉ [a.toolchain.shExecutable, builder.execPath, interface.execPath])
    (outputPie : ∀ output, a.output = some output → output.execPath ≠ "-pie") :
    (∃ e, a.withoutInterface.rawCommand = .error e ∧ a.rawCommand = .error e) ∨
      ∃ output compiler link command,
        a.output = some output ∧ a.compilerCommand = .ok compiler ∧
        a.withoutInterface.rawCommand = .ok link ∧ a.rawCommand = .ok command ∧
        link = compiler.filter (· != "-pie") ++ a.fissionOption ∧
        command = [a.toolchain.shExecutable, "-c", interfaceScript, builder.execPath,
          output.execPath, interface.execPath] ++ link ∧
        callCommands? command =
          some [link, [builder.execPath, output.execPath, interface.execPath]] ∧
        "-pie" ∉ link ∧ "-pie" ∉ command := by
  cases ho : a.output with
  | none =>
    refine .inl ⟨.absentArtifact, ?_, ?_⟩
    · rw [rawCommand_withoutInterface ht, compilerCommand_of_output_eq_none ho]
      rfl
    · rw [rawCommand, ht]
      simp [interfaceWrapper, hi, hb, ho]
  | some output =>
    have callPie : "-pie" ∉ a.interfaceCall builder output interface := by
      have script : "-pie" ∉ ["-c", interfaceScript] := by decide
      have named := outputPie output ho
      simp only [interfaceCall, List.mem_cons, List.not_mem_nil, or_false, not_or] at pie script ⊢
      exact ⟨pie.1, script.1, script.2, pie.2.1, named.symm, pie.2.2⟩
    have wrapped := rawCommand_interface ht hi hb ho callPie
    have plain := rawCommand_withoutInterface ht
    cases hc : a.compilerCommand with
    | error e =>
      rw [hc] at plain
      rw [plain] at wrapped
      exact .inl ⟨e, plain, wrapped⟩
    | ok compiler =>
      rw [hc] at plain
      rw [plain] at wrapped
      have linkPie : "-pie" ∉ compiler.filter (· != "-pie") ++ a.fissionOption := by
        unfold fissionOption
        split <;> simp
      exact .inr ⟨output, compiler, _, _, rfl, rfl, plain, wrapped, rfl, rfl,
        callCommands?_interfaceScript _ _ _ _ (rawCommand_ne_nil plain), linkPie, by
          simp [callPie, linkPie]⟩

/-- The builder of interface libraries. -/
def ifsoBuilder : Artifact := ⟨"tools/build_ifso", "", by decide, .inl rfl⟩

/-- The dynamic library of a link with an interface. -/
def voxOutput : Artifact := ⟨"out/vox/libvox.so", "", by decide, .inl rfl⟩

/-- The interface of the dynamic library. -/
def voxInterface : Artifact := ⟨"out/vox/libvox.ifso", "", by decide, .inl rfl⟩

/-- The link of the dynamic library, with `-pie` among the flags of the toolchain. -/
def voxAction : Action where
  toolchain := { linkFlags := ["-pie", "-Wl,-z,now"], useFission := true }
  ownerLabel := "//vox:vox"
  target := .dynamicLibrary
  staticness := .dynamic
  output := some voxOutput
  interfaceOutput := some voxInterface
  linkopts := ["-pie"]
  interfaceSoBuilder := some ifsoBuilder

theorem rawCommand_voxAction : ∃ command, voxAction.rawCommand = .ok command ∧
    callCommands? command = some [
      ["/usr/bin/gcc", "-shared", "-o", "out/vox/libvox.so", "-Wl,-z,now", "-Wl,--gdb-index"],
      ["tools/build_ifso", "out/vox/libvox.so", "out/vox/libvox.ifso"]] := by
  have outputPie : ∀ output, voxAction.output = some output → output.execPath ≠ "-pie" := by
    rintro output ⟨⟩
    decide
  have result := rawCommand_of_interface (a := voxAction) rfl rfl rfl (by decide) outputPie
  have plain : voxAction.withoutInterface.rawCommand = .ok ["/usr/bin/gcc", "-shared", "-o",
      "out/vox/libvox.so", "-Wl,-z,now", "-Wl,--gdb-index"] := by decide +kernel
  rw [plain] at result
  obtain ⟨e, failed, -⟩ | ⟨output, compiler, link, command, ho, -, hl, hc, -, -, run, -⟩ := result
  · cases failed
  · cases ho
    cases hl
    exact ⟨command, hc, run⟩

end Action
end LinkSynthesis

import LinkSynthesis.Proofs.Command.LibrarySearch

/-!
# The directory of the language runtime

What the loader makes of the option of the runtime directory. Its entry leads up from the output to
the output tree and then down by the name of the runtime directory alone. So it denotes the
directory of that name directly in the output tree, and the runtime directory itself just if that is
where it lies (`entryDir_runtimeOption`).
-/

namespace LinkSynthesis.Action
open LibrarySearch

variable {a : Action} {output : Artifact}

/-- The runtime directory as a text behind the way up from the output. -/
theorem IsInTree.entryDir_name (h : a.IsInTree output) {depth : Nat}
    (hd : a.outputDepth = .ok depth) {s : Path.Segment} (hs : s ≠ .up) :
    entryDir output.parent (a.origin ++ (stepsUp depth ++ (s.text ++ "/"))) =
      (Path.parse a.toolchain.binDir).descend [s] := by
  have segments : (Path.parse (s.text ++ "/")).segments = [s] := by
    have closed := Path.parse_segments_append_slash s.text ""
    rwa [String.append_empty, Path.parse_segments_text, Path.parse_segments_empty] at closed
  have down : .up ∉ (Path.parse (s.text ++ "/")).segments := by
    rw [segments, List.mem_singleton]
    exact hs.symm
  rw [entryDir_origin, h.resolveBelow_stepsUp hd down, segments]

/-- **The option of the runtime directory.** Let an output that is no shared native library lie in
the output tree, and the runtime directory too, at any depth. The entry of the option denotes the
directory directly in the output tree that has the name of the runtime directory. This is the
runtime directory exactly if its parent is the output tree. -/
theorem entryDir_runtimeOption {text : String} (h : a.IsInTree output)
    (wanted : a.wantsRuntimeRpath = true) (apart : a.isSharedNativeLibrary = false)
    (hr : a.runtimeSolibDir = some text)
    (below : (Path.parse text).IsBelow (Path.parse a.toolchain.binDir))
    (down : .up ∉ (Path.parse text).segments) :
    ∃ plan option entry last, a.rpathPlan = .ok plan ∧ plan.runtimeOption = some option ∧
      behind? "-Wl,-rpath," option = some entry ∧
      (Path.parse text).segments.getLast? = some last ∧
      entryDir output.parent entry = (Path.parse a.toolchain.binDir).descend [last] ∧
      (entryDir output.parent entry = Path.parse text ↔
        (Path.parse text).parent = Path.parse a.toolchain.binDir) := by
  obtain ⟨sub, last, path⟩ := below.exists_descend
  obtain ⟨way, -, depth, -⟩ := h.exists_sub
  rw [Path.descend_append] at path
  have plain : last ≠ .up := by
    rintro rfl
    exact down (by simp [path, Path.descend])
  have denoted := h.entryDir_name depth plain
  have plan := rpathPlan_of_apart apart
  rw [depth] at plan
  refine ⟨_, _, _, last, plan, ?_, behind?_append _ _, ?_, denoted, ?_⟩
  · dsimp only
    rw [if_pos wanted, hr, Option.map_some, Option.map_some, path, Path.name_descend_singleton]
    simp only [String.append_assoc]
  · simp [path, Path.descend]
  · rw [denoted, path, Path.parent_descend_singleton, Path.descend_singleton_inj]
    exact (and_iff_left rfl).trans eq_comm

/-- An executable two directories below the output tree. -/
def probeOutput : Artifact :=
  ⟨"out/bin/tools/net/probe", "out//bin", by decide, by decide +kernel⟩

/-- The link of the executable, with the runtime directly in the output tree. -/
def probeAction : Action where
  toolchain := { binDir := "out/bin/", solibDirectory := "_solib" }
  ownerLabel := "//tools/net:probe"
  target := .executable
  staticness := .dynamic
  output := some probeOutput
  runtimeSolibDir := some "out/bin/_rt"
  nativeDeps := true
  useExecOrigin := true

theorem entryDir_probeAction : ∃ plan entry, probeAction.rpathPlan = .ok plan ∧
    plan.runtimeOption = some "-Wl,-rpath,$EXEC_ORIGIN/../../_rt/" ∧
    behind? "-Wl,-rpath," "-Wl,-rpath,$EXEC_ORIGIN/../../_rt/" = some entry ∧
    entryDir probeOutput.parent entry = Path.parse "out/bin/_rt" := by
  have inTree : probeAction.IsInTree probeOutput := by
    refine ⟨rfl, ?_, ⟨?_, ?_, ?_⟩, ?_⟩ <;> decide +kernel
  have below : (Path.parse "out/bin/_rt").IsBelow (Path.parse probeAction.toolchain.binDir) := by
    refine ⟨?_, ?_, ?_⟩ <;> decide +kernel
  obtain ⟨plan, option, entry, last, hp, ho, behind, -, -, own⟩ :=
    entryDir_runtimeOption inTree rfl rfl rfl below (by decide)
  have computed : probeAction.rpathPlan = .ok {
      solibDir := Path.parse "out/bin/_solib"
      runtimeSolibDir := some (Path.parse "out/bin/_rt")
      root := "-Wl,-rpath,$EXEC_ORIGIN/../../_solib/:$EXEC_ORIGIN/"
      runtimeOption := some "-Wl,-rpath,$EXEC_ORIGIN/../../_rt/" } := by
    decide +kernel
  cases hp.symm.trans computed
  cases ho
  exact ⟨_, entry, computed, rfl, behind, own.2 (by decide)⟩

/-- A shared object two directories below the output tree. -/
def nestedOutput : Artifact :=
  ⟨"buck-out/bin/my/pkg/libx.so", "buck-out/bin", by decide, by decide +kernel⟩

/-- The link of the shared object, with the runtime below the solib directory. -/
def nestedAction : Action where
  toolchain := {}
  ownerLabel := "//my/pkg:x"
  target := .dynamicLibrary
  staticness := .mostlyStatic
  output := some nestedOutput
  runtimeSolibDir := some "buck-out/bin/_solib_k8/_runtime_k8"

/-- The option of a runtime directory that lies deeper denotes another directory. -/
theorem entryDir_nestedAction_ne :
    nestedAction.IsInTree nestedOutput ∧ nestedAction.wantsRuntimeRpath = true ∧
      nestedAction.isSharedNativeLibrary = false ∧
      nestedAction.runtimeSolibDir = some "buck-out/bin/_solib_k8/_runtime_k8" ∧
      (Path.parse "buck-out/bin/_solib_k8/_runtime_k8").IsBelow
        (Path.parse nestedAction.toolchain.binDir) ∧
      .up ∉ (Path.parse "buck-out/bin/_solib_k8/_runtime_k8").segments ∧
      ∃ plan entry, nestedAction.rpathPlan = .ok plan ∧
        plan.runtimeOption = some ("-Wl,-rpath," ++ entry) ∧
        entryDir nestedOutput.parent entry = Path.parse "buck-out/bin/_runtime_k8" ∧
        entryDir nestedOutput.parent entry ≠ Path.parse "buck-out/bin/_solib_k8/_runtime_k8" := by
  refine ⟨?_, rfl, rfl, rfl, ?_, by decide, {
      solibDir := Path.parse "buck-out/bin/_solib_k8"
      runtimeSolibDir := some (Path.parse "buck-out/bin/_solib_k8/_runtime_k8")
      root := "-Wl,-rpath,$ORIGIN/../../_solib_k8/"
      runtimeOption := some "-Wl,-rpath,$ORIGIN/../../_runtime_k8/" },
    "$ORIGIN/../../_runtime_k8/", by decide +kernel, by decide, by decide +kernel,
    by decide +kernel⟩
  · refine ⟨rfl, ?_, ⟨?_, ?_, ?_⟩, ?_⟩ <;> decide +kernel
  · refine ⟨?_, ?_, ?_⟩ <;> decide +kernel

end LinkSynthesis.Action

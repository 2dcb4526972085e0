import LinkSynthesis.Proofs.Command.MemberGroups
import LinkSynthesis.Proofs.Command.RawCommand

/-!
# Links with groups

A link with groups of members refines the link with plain archives: with each archive in the place
of its group the command is the plain one, and if one of the two links fails, so does the other with
the same error (`exists_fill_eq_rawCommand`). All members must be there, as the plain link does not
look at them.
-/

namespace LinkSynthesis

open WholeArchiveMarkers (Piece)

namespace Action

variable {a : Action} {plan : RpathPlan} {input : LinkerInput} {file : Artifact} {isRuntime : Bool}
  {type type' : ArchiveType} {token : String}

/-- The groups that may stand in the places of the inputs, in their order. -/
def memberGroups (a : Action) : List MemberGroup := a.inputs.filterMap (·.group?)

/-- The action with the toolchain set to another archive type. -/
def withArchives (a : Action) (type : ArchiveType) : Action :=
  { a with toolchain := { a.toolchain with archiveType := type } }

/-! ### Failing alike -/

/-- How archives are passed does not matter to whether an input contributes. -/
theorem alike_contributionOf
    (present : input.isExpandable = true → ∀ member ∈ input.members, member.isSome) :
    Alike (fun _ _ => True) ((a.withArchives type).contributionOf plan isRuntime input)
      ((a.withArchives type').contributionOf plan isRuntime input) := by
  rw [contributionOf_eq, contributionOf_eq]
  refine alike_bind_self fun file hf => ?_
  have hf := Artifact.require_eq_ok_iff.1 hf
  split
  · exact alike_refl (fun _ => trivial) _
  · -- Only a missing member could stop one of the two.
    obtain ⟨tokens, ht⟩ := exists_staticTokens (a := a.withArchives type) hf present
    obtain ⟨tokens', ht'⟩ := exists_staticTokens (a := a.withArchives type') hf present
    rw [ht, ht']
    trivial

theorem alike_mapM_contributionOf {inputs : List LinkerInput} (isRuntime : Bool)
    (present : ∀ input ∈ inputs, input.isExpandable = true →
      ∀ member ∈ input.members, member.isSome) :
    Alike (List.Forall₂ fun _ _ => True)
      (inputs.mapM ((a.withArchives type).contributionOf plan isRuntime))
      (inputs.mapM ((a.withArchives type').contributionOf plan isRuntime)) :=
  alike_mapM fun input hi => alike_contributionOf (present input hi)

/-! ### Arguments that are no markers -/

/-- The texts that a link may hand on as they are. -/
def linkTexts (a : Action) : List String :=
  a.frameTexts ++ a.linkopts ++ a.inputFiles.map (·.execPath)

theorem isUnmarked_wholeArchiveMarkers (a : Action) :
    memberMarkers.IsUnmarked a.wholeArchiveMarkers.opening ∧
      memberMarkers.IsUnmarked a.wholeArchiveMarkers.closing := by
  unfold wholeArchiveMarkers
  split <;> decide

theorem isUnmarked_of_isFrameOption (h : IsFrameOption a token) :
    memberMarkers.IsUnmarked token := by
  cases h with
  | fixed own =>
    revert token
    decide
  | symbolCounts path => exact WholeArchiveMarkers.isUnmarked_append (by decide) (by decide) _
  | pie => decide

section

variable (unmarked : ∀ text ∈ a.linkTexts, memberMarkers.IsUnmarked text)

include unmarked

theorem isUnmarked_of_mem_linkFrame {frame : LinkFrame} (h : a.linkFrame = .ok frame)
    (ht : token ∈ frame.before ++ frame.after) : memberMarkers.IsUnmarked token := by
  rcases mem_linkFrame_cases h ht with text | option
  · exact unmarked _ (List.mem_append_left _ (List.mem_append_left _ text))
  · exact isUnmarked_of_isFrameOption option

/-! ### The link, part by part -/

variable {linked linked' runtime runtime' : List Contribution}
  (link : a.target.isStaticLibrary = false)
  (ordinary : ∀ group ∈ a.memberGroups, group.IsOrdinary)

include link ordinary

theorem regroups_markedTokens
    (contributes : (a.withArchives .startEndLib).Contributes plan linked runtime)
    (contributes' : (a.withArchives .fat).Contributes plan linked' runtime') (whole : Bool) :
    Regroups a.memberGroups ((a.withArchives .startEndLib).markedTokens linked runtime whole)
      ((a.withArchives .fat).markedTokens linked' runtime' whole) := by
  have named (input : LinkerInput) (hi : input ∈ a.inputs) (file : Artifact)
      (hf : input.artifact = some file ∨ some file ∈ input.members) :
      memberMarkers.IsUnmarked file.execPath :=
    unmarked _ (List.mem_append_right _
      (List.mem_map_of_mem (mem_inputFiles_iff.2 ⟨input, hi, hf⟩)))
  have ofInputs {inputs : List LinkerInput} (sub : inputs ⊆ a.inputs) :
      Regroups (inputs.filterMap (·.group?))
        (inputs.flatMap (·.tokens (a.withArchives .startEndLib).toolchain))
        (inputs.flatMap (·.tokens (a.withArchives .fat).toolchain)) :=
    LinkerInput.regroups_flatMap_tokens rfl nofun fun input hi => named input (sub hi)
  have ofLinked : Regroups (a.linkerInputs.filterMap (·.group?))
      (linked.flatMap (·.tokens)) (linked'.flatMap (·.tokens)) := by
    rw [contributes.flatMap_tokens_linked, contributes'.flatMap_tokens_linked]
    exact ofInputs (List.subset_append_left _ _)
  have ofRuntime : Regroups (a.runtimeInputs.filterMap (·.group?))
      (runtime.flatMap (·.tokens)) (runtime'.flatMap (·.tokens)) := by
    rw [contributes.flatMap_tokens_runtime, contributes'.flatMap_tokens_runtime]
    exact ofInputs (List.subset_append_right _ _)
  -- The markers of whole archives are arguments like any other to the groups.
  obtain ⟨opening, closing⟩ := isUnmarked_wholeArchiveMarkers a
  rw [memberGroups, inputs, List.filterMap_append] at ordinary ⊢
  cases whole with
  | true => exact ofLinked.append (.word closing ofRuntime)
  | false =>
    have both := ofLinked.append ofRuntime
    rw [← List.flatMap_append, ← List.flatMap_append] at both
    rw [markedTokens_of_link (a := a.withArchives .startEndLib) link,
      markedTokens_of_link (a := a.withArchives .fat) link]
    refine both.flatMap (f := wrapAlwaysLink a.wholeArchiveMarkers)
      (if_neg (by decide)) (if_neg (by decide)) ?_ ?_
    · intro group hg file hfile
      rw [wrapAlwaysLink, if_neg (by simp [(ordinary group hg file hfile).1])]
    · intro token htoken token' ht
      rcases mem_wrapAlwaysLink_cases ht with rfl | rfl | rfl
      · exact htoken
      · exact opening
      · exact closing

theorem regroups_arrange (hp : a.rpathPlan = .ok plan)
    (contributes : (a.withArchives .startEndLib).Contributes plan linked runtime)
    (contributes' : (a.withArchives .fat).Contributes plan linked' runtime') (whole : Bool) :
    Regroups a.memberGroups ((a.withArchives .startEndLib).arrange plan linked runtime whole true)
      ((a.withArchives .fat).arrange plan linked' runtime' whole true) := by
  -- What stands in front follows from the shared libraries, which no group can be.
  have front : (a.withArchives .startEndLib).frontOptions plan linked runtime whole =
      (a.withArchives .fat).frontOptions plan linked' runtime' whole := by
    rw [contributes.frontOptions_eq_needsRoot, contributes'.frontOptions_eq_needsRoot]
    rfl
  have options : ∀ token ∈ (a.withArchives .fat).frontOptions plan linked' runtime' whole ++
      (a.withArchives .fat).libraryOptions plan, memberMarkers.IsUnmarked token := by
    intro token ht
    rw [frontOptions_eq, List.append_assoc, List.mem_append] at ht
    rcases ht with opening | option
    · split at opening
      · rw [List.mem_singleton.1 opening]
        exact (isUnmarked_wholeArchiveMarkers _).1
      · cases opening
    · rcases mem_options_cases hp option with ⟨entries, rfl⟩ | ⟨dir, rfl⟩
      · exact WholeArchiveMarkers.isUnmarked_append (by decide) (by decide) _
      · exact WholeArchiveMarkers.isUnmarked_append (by decide) (by decide) _
  have linkopts : ∀ token ∈ a.linkopts, memberMarkers.IsUnmarked token := fun token ht =>
    unmarked _ (List.mem_append_left _ (List.mem_append_right _ ht))
  have inputs := regroups_markedTokens unmarked link ordinary contributes contributes' whole
  rw [contributes.arrange_eq, contributes'.arrange_eq, front]
  exact (inputs.followedBy linkopts).behind options

/-- The input options with groups and those with archives, or one and the same error. -/
theorem alike_inputOptions
    (present : ∀ input ∈ a.inputs, input.isExpandable = true →
      ∀ member ∈ input.members, member.isSome) (whole : Bool) :
    Alike (Regroups a.memberGroups) ((a.withArchives .startEndLib).inputOptions whole true)
      ((a.withArchives .fat).inputOptions whole true) := by
  obtain ⟨ofLinked, ofRuntime⟩ := List.forall_mem_append.1 present
  refine alike_bind_self (x := a.rpathPlan) fun plan hp => ?_
  refine (alike_mapM_contributionOf false ofLinked).bind
    fun linked linked' hl hl' _ => ?_
  refine (alike_mapM_contributionOf true ofRuntime).bind
    fun runtime runtime' hr hr' _ => ?_
  exact regroups_arrange unmarked link ordinary hp ⟨hl, hr⟩ ⟨hl', hr'⟩ whole

theorem alike_rawCommand
    (present : ∀ input ∈ a.inputs, input.isExpandable = true →
      ∀ member ∈ input.members, member.isSome) :
    Alike (Regroups a.memberGroups) (a.withArchives .startEndLib).rawCommand
      (a.withArchives .fat).rawCommand := by
  rw [rawCommand_eq_frame (a := a.withArchives .startEndLib) link,
    rawCommand_eq_frame (a := a.withArchives .fat) link]
  refine alike_bind_self (x := a.linkFrame) fun frame hframe => ?_
  refine (alike_inputOptions unmarked link ordinary present a.needsWholeArchive).bind
    fun grouped plain _ _ regroups => ?_
  have around : ∀ token ∈ frame.before ++ frame.after, memberMarkers.IsUnmarked token :=
    fun _ ht => isUnmarked_of_mem_linkFrame unmarked hframe ht
  obtain ⟨before, after⟩ := List.forall_mem_append.1 around
  have framed := (regroups.behind before).followedBy after
  have kept : Regroups a.memberGroups ((frame.before ++ grouped ++ frame.after).flatMap a.keep)
      ((frame.before ++ plain ++ frame.after).flatMap a.keep) := by
    refine framed.flatMap ?_ ?_ ?_ ?_
    · simp [keep, memberMarkers]
    · simp [keep, memberMarkers]
    · intro group hg file hfile
      simp [keep, (ordinary group hg file hfile).2]
    · intro token htoken token' ht
      unfold keep at ht
      split at ht
      · cases ht
      · rwa [List.mem_singleton.1 ht]
  have fission : ∀ token ∈ a.fissionOption, memberMarkers.IsUnmarked token := by
    unfold fissionOption
    split
    · rw [List.forall_mem_singleton]
      decide
    · simp
  exact kept.followedBy fission

end

/-- **Groups refine archives.** Take a link whose texts hold no marker of groups, with ordinary
archives and all their members there. With groups and with archives, it fails with the same error or
it succeeds. If it succeeds, the markers in the command with groups form pairs, the k-th of them
holds the member paths of the k-th archive that has a group, and with the k-th archive in the place
of the k-th pair this is the command with archives. -/
theorem exists_fill_eq_rawCommand (link : a.target.isStaticLibrary = false)
    (unmarked : ∀ text ∈ a.linkTexts, memberMarkers.IsUnmarked text)
    (ordinary : ∀ group ∈ a.memberGroups, group.IsOrdinary)
    (present : ∀ input ∈ a.inputs, input.isExpandable = true →
      ∀ member ∈ input.members, member.isSome) :
    (∃ error, (a.withArchives .startEndLib).rawCommand = .error error ∧
      (a.withArchives .fat).rawCommand = .error error) ∨
    ∃ grouped plain pieces, (a.withArchives .startEndLib).rawCommand = .ok grouped ∧
      (a.withArchives .fat).rawCommand = .ok plain ∧
      memberMarkers.pieces? none grouped = some pieces ∧
      pieces.filterMap (·.region?) = a.memberGroups.map (·.paths) ∧
      Piece.fill pieces (a.memberGroups.map (·.archive.execPath)) = plain := by
  rcases (alike_rawCommand unmarked link ordinary present).cases with failing | succeeding
  · exact .inl failing
  · obtain ⟨grouped, plain, hgrouped, hplain, regroups⟩ := succeeding
    obtain ⟨pieces, read, regions, filled⟩ := regroups.exists_pieces
    exact .inr ⟨grouped, plain, pieces, hgrouped, hplain, read, regions, filled⟩

/-- A shared object. -/
def codecOutput : Artifact :=
  ⟨"buck-out/bin/media/libcodec.so", "buck-out/bin", by decide, by decide +kernel⟩

/-- Filters that register themselves. -/
def codecFilters : Artifact := ⟨"buck-out/bin/media/libfilters.lo", "", by decide, .inl rfl⟩

/-- An archive of two objects. -/
def codecArchive : Artifact := ⟨"buck-out/bin/media/libdsp.a", "", by decide, .inl rfl⟩

/-- The first object in the archive. -/
def codecTransform : Artifact := ⟨"buck-out/bin/media/fft.o", "", by decide, .inl rfl⟩

/-- The second object in the archive. -/
def codecWindow : Artifact := ⟨"buck-out/bin/media/window.o", "", by decide, .inl rfl⟩

/-- An archive of the runtime. -/
def codecRuntime : Artifact := ⟨"buck-out/bin/rt/libstart.a", "", by decide, .inl rfl⟩

/-- The object in the archive of the runtime. -/
def codecStart : Artifact := ⟨"buck-out/bin/rt/start.o", "", by decide, .inl rfl⟩

/-- The link of the shared object; one archive has no objects to pass in its place. -/
def codecAction : Action where
  toolchain := {}
  ownerLabel := "//media:codec"
  target := .dynamicLibrary
  staticness := .dynamic
  output := some codecOutput
  linkerInputs := [.plain (some codecFilters),
    .archive (some codecArchive) [some codecTransform, some codecWindow],
    .archive (some codecArchive) []]
  runtimeInputs := [.archive (some codecRuntime) [some codecStart]]
  linkopts := ["-pie", "-lm"]

theorem exists_fill_codecAction : ∃ grouped pieces,
    (codecAction.withArchives .startEndLib).rawCommand = .ok grouped ∧
      memberMarkers.pieces? none grouped = some pieces ∧
      pieces.filterMap (·.region?) =
        [["buck-out/bin/media/fft.o", "buck-out/bin/media/window.o"], ["buck-out/bin/rt/start.o"]] ∧
      Piece.fill pieces ["buck-out/bin/media/libdsp.a", "buck-out/bin/rt/libstart.a"] =
        ["/usr/bin/gcc", "-shared", "-o", "buck-out/bin/media/libcodec.so",
          "-Wl,-whole-archive", "buck-out/bin/media/libfilters.lo", "-Wl,-no-whole-archive",
          "buck-out/bin/media/libdsp.a", "buck-out/bin/media/libdsp.a",
          "buck-out/bin/rt/libstart.a", "-lm"] := by
  have success : (codecAction.withArchives .fat).rawCommand = .ok ["/usr/bin/gcc", "-shared",
      "-o", "buck-out/bin/media/libcodec.so", "-Wl,-whole-archive",
      "buck-out/bin/media/libfilters.lo", "-Wl,-no-whole-archive", "buck-out/bin/media/libdsp.a",
      "buck-out/bin/media/libdsp.a", "buck-out/bin/rt/libstart.a", "-lm"] := by
    decide +kernel
  rcases exists_fill_eq_rawCommand (a := codecAction) rfl (by decide) (by decide) (by decide) with
    ⟨error, -, failure⟩ | ⟨grouped, plain, pieces, hgrouped, hplain, read, regions, filled⟩
  · cases success.symm.trans failure
  · cases success.symm.trans hplain
    exact ⟨grouped, pieces, hgrouped, read, regions, filled⟩

/-- An executable. -/
def launcherOutput : Artifact :=
  ⟨"buck-out/bin/pkg/launch", "buck-out/bin", by decide, by decide +kernel⟩

/-- An archive whose object was left out. -/
def launcherArchive : Artifact := ⟨"buck-out/bin/pkg/libmain.a", "", by decide, .inl rfl⟩

/-- The link of the executable with the archive. -/
def launcherAction : Action where
  toolchain := {}
  ownerLabel := "//pkg:launch"
  target := .executable
  staticness := .fullyStatic
  output := some launcherOutput
  linkerInputs := [.archive (some launcherArchive) [none]]

/-- Where a member was left out, the link with groups fails alone. -/
theorem rawCommand_launcherAction :
    launcherAction.target.isStaticLibrary = false ∧
      (∀ text ∈ launcherAction.linkTexts, memberMarkers.IsUnmarked text) ∧
      (∀ group ∈ launcherAction.memberGroups, group.IsOrdinary) ∧
      (launcherAction.withArchives .startEndLib).rawCommand = .error .absentArtifact ∧
      (launcherAction.withArchives .fat).rawCommand =
        .ok ["/usr/bin/gcc", "-o", "buck-out/bin/pkg/launch", "buck-out/bin/pkg/libmain.a"] :=
  ⟨rfl, by decide, by decide, by decide +kernel, by decide +kernel⟩

end Action
end LinkSynthesis

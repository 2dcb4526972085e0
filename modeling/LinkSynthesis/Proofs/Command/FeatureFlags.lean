import LinkSynthesis.Proofs.Command.RawCommand
import Mathlib.Data.List.Flatten

/-!
# Flags of features

A feature reaches a raw command through one block of flags, that of the flag table of the link.
Nothing around the block knows which features are enabled, and an archive has no such block
(`alike_rawCommand_withFeatures`). A table gives more flags for more features and never moves one,
so a command with more features is one in which flags were inserted
(`rawCommand_sublist_of_features`).
-/

namespace LinkSynthesis

namespace FlagTable

variable {table : FlagTable} {features more : NameSet}

/-- More features give more flags, and the flags that were there keep their order. -/
theorem evaluate_sublist (h : features.names ⊆ more.names) :
    (table.evaluate features).Sublist (table.evaluate more) := by
  refine (List.Sublist.refl _).append (List.Sublist.flatMap_right _ fun group _ => ?_)
  by_cases enabled : features.contains group.1
  · have still : more.contains group.1 = true :=
      NameSet.contains_iff.2 (h (NameSet.contains_iff.1 enabled))
    rw [if_pos enabled, if_pos still]
  · rw [if_neg enabled]
    exact List.nil_sublist _

/-- Features that enable the same groups give the same flags. -/
theorem evaluate_congr
    (h : ∀ group ∈ table.groups, group.1 ∈ features.names ↔ group.1 ∈ more.names) :
    table.evaluate features = table.evaluate more := by
  refine congrArg (table.flags ++ ·) (List.flatMap_congr fun group hg => ?_)
  exact if_congr (by rw [NameSet.contains_iff, NameSet.contains_iff, h group hg]) rfl rfl

/-- How often a feature is named, and where, does not matter. -/
theorem evaluate_ofList_congr {names others : List String}
    (h : ∀ name, name ∈ names ↔ name ∈ others) :
    table.evaluate (.ofList names) = table.evaluate (.ofList others) :=
  evaluate_congr fun group _ => by rw [NameSet.mem_ofList, NameSet.mem_ofList, h]

end FlagTable

/-- Two commands are the same around one block of arguments. -/
def SameAround (block block' command command' : List String) : Prop :=
  ∃ before after, command = before ++ block ++ after ∧ command' = before ++ block' ++ after

/-- Around a block that was added to, the command was added to. -/
theorem SameAround.sublist {block block' command command' : List String}
    (h : SameAround block block' command command') (added : block.Sublist block') :
    command.Sublist command' := by
  obtain ⟨before, after, rfl, rfl⟩ := h
  exact ((List.Sublist.refl before).append added).append_right after

theorem SameAround.eq {block command command' : List String}
    (h : SameAround block block command command') : command = command' := by
  obtain ⟨before, after, rfl, rfl⟩ := h
  rfl

namespace Action

variable {a : Action} {features : NameSet}

/-- The same action with other features. -/
def withFeatures (a : Action) (features : NameSet) : Action := { a with features }

/-- The flag table of a link, by its staticness and by whether it makes a shared object. -/
def linkTable (a : Action) : FlagTable := a.toolchain.linkTable a.staticness a.isSharedLink

/-- The flags of a command that depend on features; an archive has none. -/
def featureFlags (a : Action) (features : NameSet) : List String :=
  if a.target.isStaticLibrary then [] else (a.linkTable.evaluate features).flatMap a.keep

theorem featureFlags_sublist (more : a.features.names ⊆ features.names) :
    (a.featureFlags a.features).Sublist (a.featureFlags features) := by
  unfold featureFlags
  split
  · exact List.Sublist.refl _
  · exact (FlagTable.evaluate_sublist more).flatMap _

/-- Only groups of the table that were not enabled before add flags. -/
theorem featureFlags_congr (more : a.features.names ⊆ features.names)
    (known : ∀ group ∈ a.linkTable.groups,
      group.1 ∈ features.names → group.1 ∈ a.features.names) :
    a.featureFlags a.features = a.featureFlags features := by
  have same : a.linkTable.evaluate a.features = a.linkTable.evaluate features :=
    FlagTable.evaluate_congr fun group hg => ⟨fun own => more own, known group hg⟩
  rw [featureFlags, featureFlags, same]

/-! ### Two commands -/

/-- An archive is made the same way, whatever features are enabled. -/
theorem rawCommand_withFeatures_of_archive (archive : a.target.isStaticLibrary = true)
    (features : NameSet) : (a.withFeatures features).rawCommand = a.rawCommand := by
  rw [rawCommand_eq_archiver archive, rawCommand_eq_archiver (a := a.withFeatures features) archive]
  rfl

/-- The frames of a link with different features differ by the flags behind the inputs. -/
theorem alike_linkFrame_withFeatures (a : Action) (features : NameSet) :
    Alike (fun frame frame' => ∃ after,
        frame = ⟨frame.before, a.linkTable.evaluate a.features ++ after⟩ ∧
        frame' = ⟨frame.before, a.linkTable.evaluate features ++ after⟩)
      a.linkFrame (a.withFeatures features).linkFrame := by
  refine alike_bind_self (x := a.linkWrapper) fun wrapper _ => ?_
  refine alike_bind_self (x := a.linkstampObjects.mapM Artifact.require) fun objects _ => ?_
  refine alike_bind_self (x := Artifact.require a.output) fun output _ => ?_
  refine ⟨(if a.isSharedLink then a.toolchain.dynamicLibraryLinkFlags else []) ++
    (if a.toolchain.coverage then ["-lgcov"] else []) ++
    (if a.target = .executable ∧ a.toolchain.forcePic then ["-pie"] else []) ++
    a.toolchain.linkFlags ++ a.toolchain.fdoLinkFlags, ?_, ?_⟩
  · simp only [Toolchain.linkOptions, List.append_assoc]
    rfl
  · simp only [Toolchain.linkOptions, List.append_assoc]
    rfl

/-- Commands with different features fail alike, or differ by the flags of the features. -/
theorem alike_rawCommand_withFeatures (a : Action) (features : NameSet) :
    Alike (SameAround (a.featureFlags a.features) (a.featureFlags features))
      a.rawCommand (a.withFeatures features).rawCommand := by
  cases kind : a.target.isStaticLibrary with
  | true =>
    rw [rawCommand_withFeatures_of_archive kind]
    refine alike_refl (fun command => ?_) _
    rw [featureFlags, featureFlags, if_pos kind, if_pos kind]
    exact ⟨command, [], by simp, by simp⟩
  | false =>
    have link : (a.withFeatures features).target.isStaticLibrary = false := kind
    rw [rawCommand_eq_frame kind, rawCommand_eq_frame link]
    refine (alike_linkFrame_withFeatures a features).bind fun frame frame' _ _ frames => ?_
    obtain ⟨after, own, other⟩ := frames
    refine alike_bind_self (x := a.inputOptions a.needsWholeArchive true) fun inputs _ => ?_
    refine ⟨(frame.before ++ inputs).flatMap a.keep, after.flatMap a.keep ++ a.fissionOption,
      ?_, ?_⟩
    · rw [own, featureFlags, if_neg (by simp [kind])]
      simp only [List.flatMap_append, List.append_assoc]
    · rw [other, featureFlags, if_neg (by simp [kind])]
      simp only [List.flatMap_append, List.append_assoc]
      rfl

/-- **Features only add flags.** With more features, an action fails with the same error, or its
command has the arguments that it had, in their order, and flags between them; it is the same
command if no group of the flag table of the link is that of a new feature. The flags of any table
follow from the set of features alone, and there are more for more features. -/
theorem rawCommand_sublist_of_features (more : a.features.names ⊆ features.names) :
    ((∃ error, a.rawCommand = .error error ∧
        (a.withFeatures features).rawCommand = .error error) ∨
      ∃ command command', a.rawCommand = .ok command ∧
        (a.withFeatures features).rawCommand = .ok command' ∧ command.Sublist command' ∧
        ((∀ group ∈ a.linkTable.groups, group.1 ∈ features.names → group.1 ∈ a.features.names) →
          command = command')) ∧
    ∀ (table : FlagTable) (names others : List String), names ⊆ others →
      (table.evaluate (.ofList names)).Sublist (table.evaluate (.ofList others)) ∧
      (others ⊆ names → table.evaluate (.ofList names) = table.evaluate (.ofList others)) := by
  constructor
  · rcases (alike_rawCommand_withFeatures a features).cases with failing | succeeding
    · exact .inl failing
    · obtain ⟨command, command', h, h', around⟩ := succeeding
      refine .inr ⟨command, command', h, h', around.sublist (featureFlags_sublist more), ?_⟩
      intro known
      rw [featureFlags_congr more known] at around
      exact around.eq
  · intro table names others sub
    refine ⟨FlagTable.evaluate_sublist fun name => ?_, fun back => ?_⟩
    · rw [NameSet.mem_ofList, NameSet.mem_ofList]
      exact fun own => sub own
    · exact FlagTable.evaluate_ofList_congr fun name => ⟨fun own => sub own, fun own => back own⟩

/-- A shared object. -/
def squashOutput : Artifact :=
  ⟨"buck-out/bin/zip/libsquash.so", "buck-out/bin", by decide, by decide +kernel⟩

/-- An object. -/
def squashObject : Artifact := ⟨"buck-out/bin/zip/squash.o", "", by decide, .inl rfl⟩

/-- The link of the shared object, under a toolchain with two groups for one feature. -/
def squashAction : Action where
  toolchain := {
    mostlyStaticSharedLinkFlags := {
      flags := ["-static-libgcc"]
      groups := [("thin_lto", ["-flto=thin", "-pie"]), ("asan", ["-fsanitize=address"]),
        ("thin_lto", ["-Wl,--lto-O3"])] }
    dynamicLibraryLinkFlags := ["-Wl,-z,defs"]
    supportsEmbeddedRuntimes := true }
  ownerLabel := "//zip:squash"
  target := .dynamicLibrary
  staticness := .mostlyStatic
  output := some squashOutput
  linkerInputs := [.plain (some squashObject)]
  features := .ofList ["asan"]

theorem rawCommand_squashAction :
    squashAction.features.names ⊆ (NameSet.ofList ["thin_lto", "asan", "opt"]).names ∧
    ∃ command,
      (squashAction.withFeatures (.ofList ["thin_lto", "asan", "opt"])).rawCommand = .ok command ∧
      ["/usr/bin/gcc", "-shared", "-o", "buck-out/bin/zip/libsquash.so",
        "buck-out/bin/zip/squash.o", "-static-libgcc", "-fsanitize=address",
        "-Wl,-z,defs"].Sublist command ∧
      command = ["/usr/bin/gcc", "-shared", "-o", "buck-out/bin/zip/libsquash.so",
        "buck-out/bin/zip/squash.o", "-static-libgcc", "-flto=thin", "-fsanitize=address",
        "-Wl,--lto-O3", "-Wl,-z,defs"] := by
  have more : squashAction.features.names ⊆
      (NameSet.ofList ["thin_lto", "asan", "opt"]).names := by
    decide
  have own : squashAction.rawCommand = .ok ["/usr/bin/gcc", "-shared", "-o",
      "buck-out/bin/zip/libsquash.so", "buck-out/bin/zip/squash.o", "-static-libgcc",
      "-fsanitize=address", "-Wl,-z,defs"] := by
    decide +kernel
  have other : (squashAction.withFeatures (.ofList ["thin_lto", "asan", "opt"])).rawCommand =
      .ok ["/usr/bin/gcc", "-shared", "-o", "buck-out/bin/zip/libsquash.so",
        "buck-out/bin/zip/squash.o", "-static-libgcc", "-flto=thin", "-fsanitize=address",
        "-Wl,--lto-O3", "-Wl,-z,defs"] := by
    decide +kernel
  obtain ⟨⟨error, failing, -⟩ | ⟨command, command', h, h', sublist, -⟩, -⟩ :=
    rawCommand_sublist_of_features more
  · cases own.symm.trans failing
  · cases own.symm.trans h
    cases other.symm.trans h'
    exact ⟨more, _, other, sublist, rfl⟩

end Action
end LinkSynthesis

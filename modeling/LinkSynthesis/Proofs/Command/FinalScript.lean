import Mathlib.Data.Set.List
import LinkSynthesis.Command.FinalCommand
import LinkSynthesis.Proofs.Command.RawCommand
import LinkSynthesis.Proofs.Shell.Script

/-!
# The script of a final command

What the shell makes of the script that compiles the linkstamps and then links. The script reads
back as one command for each linkstamp and the raw command behind them, whatever the paths, labels
and flags contain.
-/

namespace LinkSynthesis.Action

variable {a : Action}

/-- The files that the linkstamp compiles of an action name, none left out. -/
structure StampFiles (a : Action) where
  output : Artifact
  headers : List Artifact
  /-- The source and the object of each linkstamp. -/
  stamps : List (Artifact × Artifact)
  output_eq : a.output = some output
  headers_eq : a.buildInfoHeaders = headers.map some
  stamps_eq : a.linkstamps = stamps.map fun stamp => ⟨some stamp.1, some stamp.2⟩

theorem exists_linkstamps_eq
    (there : ∀ stamp ∈ a.linkstamps, stamp.source.isSome ∧ stamp.object.isSome) :
    ∃ stamps : List (Artifact × Artifact),
      a.linkstamps = stamps.map fun stamp => ⟨some stamp.1, some stamp.2⟩ := by
  obtain ⟨stamps, hs⟩ : a.linkstamps ∈ Set.range (List.map fun stamp : Artifact × Artifact =>
      (⟨some stamp.1, some stamp.2⟩ : Linkstamp)) := by
    rw [Set.range_list_map]
    intro stamp hm
    obtain ⟨hs, ho⟩ := there stamp hm
    obtain ⟨source, hs⟩ := Option.isSome_iff_exists.1 hs
    obtain ⟨object, ho⟩ := Option.isSome_iff_exists.1 ho
    refine ⟨(source, object), ?_⟩
    dsimp only
    rw [← hs, ← ho]
  exact ⟨stamps, hs.symm⟩

theorem nonempty_stampFiles (output : a.output.isSome)
    (headers : ∀ header ∈ a.buildInfoHeaders, header.isSome)
    (linkstamps : ∀ stamp ∈ a.linkstamps, stamp.source.isSome ∧ stamp.object.isSome) :
    Nonempty a.StampFiles := by
  obtain ⟨output, ho⟩ := Option.isSome_iff_exists.1 output
  obtain ⟨headers, hh⟩ : a.buildInfoHeaders ∈ Set.range (List.map some) := by
    rw [Set.range_list_map]
    intro header hm
    obtain ⟨file, hf⟩ := Option.isSome_iff_exists.1 (headers header hm)
    exact ⟨file, hf.symm⟩
  obtain ⟨stamps, hs⟩ := exists_linkstamps_eq linkstamps
  exact ⟨⟨output, headers, stamps, ho, hh.symm, hs⟩⟩

theorem IsComplete.nonempty_stampFiles (h : a.IsComplete) : Nonempty a.StampFiles :=
  Action.nonempty_stampFiles h.output h.headers h.linkstamps

namespace StampFiles

/-- The label of the stamps. -/
def label (files : a.StampFiles) : String :=
  if a.isSharedNativeLibrary then files.output.execPath else a.ownerLabel

/-- The words of the compile of one linkstamp up to its source. -/
def sourceWords (files : a.StampFiles) (source : Artifact) : List String :=
  a.toolchain.compiler :: a.stampFlags files.label files.output files.headers ++
    ["-c", source.execPath]

/-- The words of the compile of one linkstamp. -/
def compileWords (files : a.StampFiles) (stamp : Artifact × Artifact) : List String :=
  files.sourceWords stamp.1 ++ ["-o", stamp.2.execPath]

/-- The compile of one linkstamp as it stands in the script. -/
def compileText (files : a.StampFiles) (objectPrefix : String) (stamp : Artifact × Artifact) :
    String :=
  Shell.join (files.sourceWords stamp.1) ++ " -o " ++ (objectPrefix ++
    Shell.quote stamp.2.execPath)

theorem stampLabel_eq (files : a.StampFiles) : a.stampLabel = .ok files.label := by
  unfold stampLabel label
  rw [files.output_eq]
  split <;> rfl

theorem stampCommand_eq (files : a.StampFiles) (objectPrefix : String)
    (stamp : Artifact × Artifact) :
    a.stampCommand objectPrefix files.label files.output files.headers
      ⟨some stamp.1, some stamp.2⟩ = .ok (files.compileText objectPrefix stamp) := by
  -- The compiler is quoted apart from its options, which makes no difference to the text.
  have options : a.stampOptions files.label files.output stamp.1 files.headers ≠ [] := by
    simp [stampOptions]
  have joined : Shell.join (files.sourceWords stamp.1) =
      Shell.quote a.toolchain.compiler ++ " " ++
        Shell.join (a.stampOptions files.label files.output stamp.1 files.headers) := by
    rw [sourceWords, List.cons_append, ← stampOptions, Shell.join, List.map_cons,
      String.intercalate_cons_of_ne_nil (by simpa using options), ← Shell.join]
  rw [compileText, joined, String.append_assoc, String.append_assoc]
  simp [stampCommand, String.append_assoc]

/-- The compiles of an action whose files are there. -/
theorem stampCommands_eq (files : a.StampFiles) (objectPrefix : String) :
    a.stampCommands objectPrefix = .ok (files.stamps.map (files.compileText objectPrefix)) := by
  unfold stampCommands
  split
  · next h =>
    have none : files.stamps = [] := by
      simpa [files.stamps_eq] using h
    simp [none]
  · rw [files.stampLabel_eq, except_bind_ok, Artifact.mapM_require_eq_ok_iff.2 files.headers_eq,
      except_bind_ok, files.output_eq, Artifact.require_some, except_bind_ok, files.stamps_eq,
      mapM_eq_ok_iff, List.forall₂_map_left_iff, List.forall₂_map_right_iff, List.forall₂_same]
    exact fun stamp _ => files.stampCommand_eq objectPrefix stamp

/-- In front of the object path stands what the prefix stands for, as part of the last word. -/
theorem spellsCommand_of_leads (files : a.StampFiles) {objectPrefix lead : String}
    (leads : Shell.Leads objectPrefix lead) (stamp : Artifact × Artifact) :
    Shell.SpellsCommand (files.compileText objectPrefix stamp)
      (files.sourceWords stamp.1 ++ ["-o", lead ++ stamp.2.execPath]) := by
  have words : (files.sourceWords stamp.1).map Shell.quote ≠ [] := by simp [sourceWords]
  refine ⟨by simp, (files.sourceWords stamp.1).map Shell.quote ++
    ["-o", objectPrefix ++ Shell.quote stamp.2.execPath], ?_, ?_⟩
  · refine List.rel_append ?_ (.cons ?_ (.cons (leads.spells_append_quote _) .nil))
    · rw [List.forall₂_map_left_iff, List.forall₂_same]
      exact fun word _ => Shell.spells_quote word
    · exact Shell.spells_quote "-o"
  · rw [String.intercalate_append_of_ne_nil words (by simp), ← Shell.join, compileText,
      show " -o " = " " ++ ("-o" ++ " ") from rfl]
    simp only [String.intercalate_cons_cons, String.intercalate_singleton, String.append_assoc]

/-- Safe characters stand for themselves. -/
theorem spellsCommand_compileText (files : a.StampFiles) {objectPrefix : String}
    (safe : ∀ c ∈ objectPrefix.toList, Shell.isSafe c = true) (stamp : Artifact × Artifact) :
    Shell.SpellsCommand (files.compileText objectPrefix stamp)
      (files.sourceWords stamp.1 ++ ["-o", objectPrefix ++ stamp.2.execPath]) :=
  files.spellsCommand_of_leads (Shell.leads_of_isSafe safe) stamp

end StampFiles

/-- **The script of a final command reads back** as the linkstamp compiles, in their order, and the
raw command. -/
theorem commands?_script_of_arguments {link : List String} (complete : a.IsComplete)
    (stamped : a.linkstamps ≠ []) (raw : a.rawCommand = .ok link) :
    ∃ (files : a.StampFiles) (script : String),
      a.arguments = .ok [a.toolchain.shExecutable, "-c", script] ∧
      Shell.commands? script = some (files.stamps.map files.compileWords ++ [link]) := by
  obtain ⟨files⟩ := complete.nonempty_stampFiles
  have some_stamp : files.stamps ≠ [] := by
    rintro h
    exact stamped (by rw [files.stamps_eq, h, List.map_nil])
  refine ⟨files, " && ".intercalate (files.stamps.map (files.compileText "") ++
    [Shell.join link]), ?_, ?_⟩
  · simp [arguments, raw, finalCommand, files.stampCommands_eq, compose, some_stamp]
  · apply Shell.commands?_intercalate
    refine List.rel_append ?_ (.cons (Shell.spellsCommand_join (rawCommand_ne_nil raw)) .nil)
    rw [List.forall₂_map_left_iff, List.forall₂_map_right_iff, List.forall₂_same]
    intro stamp _
    -- No text stands in front of the object path here.
    have spelled : Shell.SpellsCommand (files.compileText "" stamp) _ :=
      files.spellsCommand_compileText (by simp) stamp
    rwa [String.empty_append] at spelled

/-- A source of a linkstamp that a shell would read as two words. -/
def hostileSource : Artifact := ⟨"s $1.cc", "", by decide, .inl rfl⟩

/-- An object of a linkstamp that would end a command. -/
def hostileObject : Artifact := ⟨"s;1.o", "", by decide, .inl rfl⟩

/-- An action whose label, flags and paths hold what a shell acts on. -/
def hostileAction : Action where
  toolchain := {
    compiler := "g cc"
    cFlags := ["", "$HOME 'x", "a\nb"]
    linkFlags := ["&&", "é"] }
  ownerLabel := "//p:its && \"q\""
  target := .executable
  staticness := .fullyStatic
  output := some ⟨"bin/a b", "bin", by decide, by decide +kernel⟩
  linkstamps := [⟨some hostileSource, some hostileObject⟩]

theorem commands?_script_of_hostileAction : ∃ script,
    hostileAction.arguments = .ok ["/bin/bash", "-c", script] ∧
      Shell.commands? script = some [
        ["g cc", "-DG3_VERSION_INFO=\"//p:its && \"q\"\"", "-DG3_TARGET_NAME=\"//p:its && \"q\"\"",
          "-DG3_BUILD_TARGET=\"bin/a b\"", "-DGPLATFORM=\"k8-gcc\"", "-I.", "", "$HOME 'x", "a\nb",
          "-c", "s $1.cc", "-o", "s;1.o"],
        ["g cc", "s;1.o", "-o", "bin/a b", "&&", "é"]] := by
  obtain ⟨⟨output, headers, stamps, ho, hh, hs⟩, script, written, read⟩ :=
    commands?_script_of_arguments
      ⟨rfl, by simp [hostileAction], by simp [hostileAction, inputs], by simp [hostileAction]⟩
      (by simp [hostileAction]) (show hostileAction.rawCommand = .ok _ from rfl)
  have injective : Function.Injective fun stamp : Artifact × Artifact =>
      (⟨some stamp.1, some stamp.2⟩ : Linkstamp) := by
    rintro ⟨source, object⟩ ⟨source', object'⟩ h
    cases h
    rfl
  have one : stamps = [(hostileSource, hostileObject)] :=
    List.map_injective_iff.2 injective hs.symm
  have none : headers = [] := List.map_eq_nil_iff.1 hh.symm
  cases ho
  subst one none
  exact ⟨script, written, read⟩

end LinkSynthesis.Action

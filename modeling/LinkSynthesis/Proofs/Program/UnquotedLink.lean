import LinkSynthesis.Proofs.Command.Arrangement
import LinkSynthesis.Proofs.Command.FinalScript
import LinkSynthesis.Proofs.Program.Ending
import LinkSynthesis.Proofs.Shell.Literal

/-!
# Links that are not quoted

With a text for the linkstamp objects, the arguments of the link count as shell text that somebody
has quoted, and the script ends in them as they are. The shell gives them to the linker just if each
of them stands for itself without quotes (`run_behind_prefix`). A run path does not: it begins with
a variable of the loader, in which the shell sees one of its own.
-/

namespace LinkSynthesis

namespace Action

variable {a : Action} {link : List String}

namespace StampFiles

/-- The script that compiles the linkstamps, with a text in front of each object, and then runs a
link whose arguments are not quoted. -/
def unquotedScript (files : a.StampFiles) (objectPrefix : String) (link : List String) : String :=
  " && ".intercalate (files.stamps.map (files.compileText objectPrefix) ++ [" ".intercalate link])

/-- The words of the compile of one linkstamp, with a text in front of its object. -/
def prefixedWords (files : a.StampFiles) (objectPrefix : String) (stamp : Artifact × Artifact) :
    List String :=
  files.sourceWords stamp.1 ++ ["-o", objectPrefix ++ stamp.2.execPath]

theorem finalCommandOfQuoted_eq (files : a.StampFiles) (stamped : a.linkstamps ≠ [])
    (objectPrefix : String) (link : List String) :
    a.finalCommandOfQuoted link objectPrefix =
      .ok [a.toolchain.shExecutable, "-c", files.unquotedScript objectPrefix link] := by
  have some_stamp : files.stamps ≠ [] := by
    rintro none
    exact stamped (by rw [files.stamps_eq, none, List.map_nil])
  simp [finalCommandOfQuoted, files.stampCommands_eq, compose, unquotedScript, some_stamp]

theorem forall₂_spellsCommand (files : a.StampFiles) {objectPrefix : String}
    (safe : ∀ c ∈ objectPrefix.toList, Shell.isSafe c = true) :
    List.Forall₂ Shell.SpellsCommand (files.stamps.map (files.compileText objectPrefix))
      (files.stamps.map (files.prefixedWords objectPrefix)) := by
  rw [List.forall₂_map_left_iff, List.forall₂_map_right_iff, List.forall₂_same]
  exact fun stamp _ => files.spellsCommand_compileText safe stamp

end StampFiles

/-- A link that searches a directory at run time has a dollar sign in its arguments. -/
theorem exists_dollar_mem_rawCommand {plan : RpathPlan} (linking : a.target.isStaticLibrary = false)
    (raw : a.rawCommand = .ok link) (hp : a.rpathPlan = .ok plan)
    (searched : plan.runtimeOption.isSome ∨ a.places plan ≠ []) :
    ∃ word ∈ link, '$' ∈ word.toList := by
  obtain ⟨inputs, options, passed⟩ := inputOptions_subset_rawCommand linking raw
  obtain ⟨plan', linked, runtime, hp', contributes, rfl⟩ := inputOptions_eq_ok options
  cases hp.symm.trans hp'
  have origin : '$' ∈ a.origin.toList := by
    unfold origin
    split <;> decide
  -- The option of the runtime directory and that of a place both begin at the origin.
  have dollar (way : String) (asked : "-Wl,-rpath," ++ a.origin ++ way ∈
      a.arrange plan linked runtime a.needsWholeArchive true) : ∃ word ∈ link, '$' ∈ word.toList := by
    refine ⟨_, passed _ asked fun pie => ?_, by simp [origin]⟩
    have second := congrArg (fun text => text.toList[1]?) pie
    simp at second
  rcases searched with own | places
  · obtain ⟨option, ho⟩ := Option.isSome_iff_exists.1 own
    obtain ⟨way, rfl⟩ := exists_eq_rpath_origin hp (.inr ho)
    exact dollar way (contributes.runtimeOption_mem_arrange ho)
  · obtain ⟨place, hplace⟩ := List.exists_mem_of_ne_nil _ places
    obtain ⟨way, root⟩ := exists_eq_rpath_origin hp (.inl rfl)
    refine dollar (way ++ "/".intercalate (place.map Path.Segment.text)) ?_
    rw [← String.append_assoc, ← root]
    exact contributes.searchOption_mem_arrange hplace

end Action

namespace Program
open Json (Value)

variable {read : String → Except FileError Value} {options : Options}

/-- A run with a text for the linkstamp objects prints the script of a link that is not quoted. -/
theorem exists_unquotedScript_of_run {objectPrefix : String} {a : Action} {report : Report}
    (asked : options.outputPrefix = some (.given objectPrefix)) (loaded : Loads read options a)
    (stamped : a.linkstamps ≠ []) (h : run read options = .ok report) :
    ∃ (files : a.StampFiles) (link : List String), a.rawCommand = .ok link ∧
      report.stdout = options.format.render
        [a.toolchain.shExecutable, "-c", files.unquotedScript objectPrefix link] ++ "\n" := by
  obtain ⟨_, words, ⟨_, htc', ha'⟩, hw, rfl⟩ := run_eq_ok h
  obtain ⟨tc, htc, ha⟩ := loaded
  cases htc.symm.trans htc'
  cases ha.symm.trans ha'
  obtain ⟨d, built⟩ := exists_build_of_loadAction ha
  unfold command at hw
  obtain ⟨link, raw, hw⟩ := bind_eq_ok_iff.1 hw
  rw [asked] at hw
  have final := mapError_eq_ok_iff.1 hw
  obtain ⟨commands, compiled, -⟩ := bind_eq_ok_iff.1 final
  obtain ⟨files⟩ := Action.nonempty_stampFiles_of_stampCommands built stamped compiled
  cases (files.finalCommandOfQuoted_eq stamped objectPrefix link).symm.trans final
  exact ⟨files, link, mapError_eq_ok_iff.1 raw, rfl⟩

/-- **A link behind a prefix** is printed as it is, behind the compiles of the linkstamps. The last
command of the script has the arguments of the link as its words just if each of them is a text of
plain characters, which no link is that searches a directory at run time. -/
theorem run_behind_prefix {objectPrefix : String} {a : Action} {report : Report}
    (asked : options.outputPrefix = some (.given objectPrefix))
    (safe : ∀ c ∈ objectPrefix.toList, Shell.isSafe c = true) (loaded : Loads read options a)
    (stamped : a.linkstamps ≠ []) (h : run read options = .ok report) :
    ∃ (files : a.StampFiles) (link : List String),
      let script := files.unquotedScript objectPrefix link
      a.rawCommand = .ok link ∧
      report.stdout = options.format.render [a.toolchain.shExecutable, "-c", script] ++ "\n" ∧
      ((Shell.commands? script).bind List.getLast? = some link ↔
        ∀ word ∈ link, Shell.IsLiteral word) ∧
      ((∀ word ∈ link, Shell.IsLiteral word) → Shell.commands? script =
        some (files.stamps.map (files.prefixedWords objectPrefix) ++ [link])) ∧
      ∀ plan, a.rpathPlan = .ok plan → plan.runtimeOption.isSome ∨ a.places plan ≠ [] →
        (Shell.commands? script).bind List.getLast? ≠ some link := by
  obtain ⟨files, link, raw, printed⟩ := exists_unquotedScript_of_run asked loaded stamped h
  have spelled := files.forall₂_spellsCommand safe
  have literal := Shell.getLast?_commands?_iff spelled (Action.rawCommand_ne_nil raw)
  refine ⟨files, link, raw, printed, literal, fun plain => ?_, fun plan hp searched read => ?_⟩
  · have last := Shell.spellsCommand_of_isLiteral (Action.rawCommand_ne_nil raw) plain
    exact Shell.commands?_intercalate (List.rel_append spelled (.cons last .nil))
  · obtain ⟨tc, -, ha⟩ := loaded
    obtain ⟨d, built⟩ := exists_build_of_loadAction ha
    have linking : a.target.isStaticLibrary = false :=
      Bool.eq_false_iff.2 fun archive => stamped (Draft.linkstamps_of_build built archive)
    obtain ⟨word, hword, dollar⟩ := Action.exists_dollar_mem_rawCommand linking raw hp searched
    have plain := (literal.1 read word hword).plain '$' dollar
    exact absurd plain (by decide)

/-- The description of an executable with a linkstamp and one linker input. -/
def stampedFolder (linkerInput : String) : Folder :=
  [("tc.yaml", .obj []),
   ("link.yaml", .obj [("owner", .str "//pkg:app"), ("target", .str "executable"),
     ("output", .str "buck-out/bin/pkg/app"), ("linker_inputs", .arr [.str linkerInput]),
     ("linkstamps", .arr [.obj [("source", .str "pkg/stamp.cc"),
       ("object", .str "buck-out/bin/pkg/stamp.o")]])])]

/-- One word a line, with a text for linkstamp objects. -/
def prefixedOptions : Options where
  toolchain := .given "tc.yaml"
  link := .given "link.yaml"
  outputPrefix := some (.given "out/")
  format := .lines

/-- The arguments of the link, with those of its input. -/
def stampedLink (inputOptions : List String) : List String :=
  ["/usr/bin/gcc", "buck-out/bin/pkg/stamp.o", "-o", "buck-out/bin/pkg/app"] ++ inputOptions

theorem run_stampedFolder_behind_prefix : ∃ a report script,
    Loads (stampedFolder "buck-out/bin/pkg/main.o").read prefixedOptions a ∧
      a.linkstamps ≠ [] ∧ a.rawCommand = .ok (stampedLink ["buck-out/bin/pkg/main.o"]) ∧
      run (stampedFolder "buck-out/bin/pkg/main.o").read prefixedOptions = .ok report ∧
      report.stdout = "\n".intercalate ["/bin/bash", "-c", script] ++ "\n" ∧
      (Shell.commands? script).bind List.getLast? =
        some (stampedLink ["buck-out/bin/pkg/main.o"]) := by
  obtain ⟨report, ran⟩ : ∃ report,
      run (stampedFolder "buck-out/bin/pkg/main.o").read prefixedOptions = .ok report := ⟨_, rfl⟩
  obtain ⟨a, loaded, stamped, shell, raw⟩ : ∃ a,
      Loads (stampedFolder "buck-out/bin/pkg/main.o").read prefixedOptions a ∧
        a.linkstamps ≠ [] ∧ a.toolchain.shExecutable = "/bin/bash" ∧
        a.rawCommand = .ok (stampedLink ["buck-out/bin/pkg/main.o"]) :=
    ⟨_, ⟨_, rfl, rfl⟩, List.cons_ne_nil _ _, rfl, by decide +kernel⟩
  obtain ⟨files, link, raw', printed, read, -⟩ :=
    run_behind_prefix rfl (List.all_eq_true.1 (by decide)) loaded stamped ran
  cases raw.symm.trans raw'
  rw [shell] at printed
  exact ⟨a, report, _, loaded, stamped, raw, ran, printed, read.2 (by decide +kernel)⟩

/-- With a shared library the link is not read back: the run path begins with a dollar sign that is
not quoted. -/
theorem run_stampedFolder_sharedLibrary : ∃ a report script,
    Loads (stampedFolder "buck-out/bin/_solib_k8/libfoo.so").read prefixedOptions a ∧
      a.linkstamps ≠ [] ∧
      a.rawCommand = .ok (stampedLink
        ["-Wl,-rpath,$ORIGIN/../_solib_k8/", "-Lbuck-out/bin/_solib_k8", "-lfoo"]) ∧
      run (stampedFolder "buck-out/bin/_solib_k8/libfoo.so").read prefixedOptions = .ok report ∧
      report.stdout = "\n".intercalate ["/bin/bash", "-c", script] ++ "\n" ∧
      (Shell.commands? script).bind List.getLast? ≠ some (stampedLink
        ["-Wl,-rpath,$ORIGIN/../_solib_k8/", "-Lbuck-out/bin/_solib_k8", "-lfoo"]) := by
  obtain ⟨report, ran⟩ : ∃ report,
      run (stampedFolder "buck-out/bin/_solib_k8/libfoo.so").read prefixedOptions = .ok report :=
    ⟨_, rfl⟩
  obtain ⟨a, loaded, stamped, shell, raw⟩ : ∃ a,
      Loads (stampedFolder "buck-out/bin/_solib_k8/libfoo.so").read prefixedOptions a ∧
        a.linkstamps ≠ [] ∧ a.toolchain.shExecutable = "/bin/bash" ∧
        a.rawCommand = .ok (stampedLink
          ["-Wl,-rpath,$ORIGIN/../_solib_k8/", "-Lbuck-out/bin/_solib_k8", "-lfoo"]) :=
    ⟨_, ⟨_, rfl, rfl⟩, List.cons_ne_nil _ _, rfl, by decide +kernel⟩
  obtain ⟨files, link, raw', printed⟩ := exists_unquotedScript_of_run rfl loaded stamped ran
  cases raw.symm.trans raw'
  rw [shell] at printed
  refine ⟨a, report, _, loaded, stamped, raw, ran, printed, fun read => ?_⟩
  have safe : ∀ c ∈ "out/".toList, Shell.isSafe c = true := List.all_eq_true.1 (by decide)
  have spelled := files.forall₂_spellsCommand safe
  have literal := (Shell.getLast?_commands?_iff spelled (Action.rawCommand_ne_nil raw)).1 read
  exact absurd literal (by decide +kernel)

end Program
end LinkSynthesis

import LinkSynthesis.Proofs.Command.FinalScript

/-!
# The text in front of linkstamp objects

A caller may ask for a text in front of the object path of every linkstamp compile. The text is
written as it is, the path behind it is quoted, and nothing else in the compile depends on it. Where
no character of the text means anything to the shell, text and path are one word. Without such a
text the words that the compiles end in are the objects that a link reads, in the same order
(`stampCommands_behind_prefix`).
-/

namespace LinkSynthesis

/-- The last word of a command. -/
def Shell.lastWord? (command : String) : Option String := (words? command).bind List.getLast?

namespace Action

variable {a : Action}

/-- A linkstamp is given by its files. -/
theorem linkstamp_injective : Function.Injective fun stamp : Artifact × Artifact =>
    (⟨some stamp.1, some stamp.2⟩ : Linkstamp) := by
  rintro ⟨source, object⟩ ⟨source', object'⟩ same
  cases same
  rfl

namespace StampFiles

/-- The compile of one linkstamp up to its source, as it stands in the script. -/
def sourceText (files : a.StampFiles) (source : Artifact) : String :=
  Shell.join (files.sourceWords source)

theorem compileText_eq (files : a.StampFiles) (objectPrefix : String)
    (stamp : Artifact × Artifact) : files.compileText objectPrefix stamp =
      files.sourceText stamp.1 ++ " -o " ++ objectPrefix ++ Shell.quote stamp.2.execPath := by
  rw [compileText, sourceText, ← String.append_assoc]

theorem words?_sourceText (files : a.StampFiles) (source : Artifact) :
    Shell.words? (files.sourceText source) = some (files.sourceWords source) :=
  Shell.words?_of_spellsCommand (Shell.spellsCommand_join (by simp [sourceWords]))

theorem words?_compileText (files : a.StampFiles) {objectPrefix lead : String}
    (leads : Shell.Leads objectPrefix lead) (stamp : Artifact × Artifact) :
    Shell.words? (files.compileText objectPrefix stamp) =
      some (files.sourceWords stamp.1 ++ ["-o", lead ++ stamp.2.execPath]) :=
  Shell.words?_of_spellsCommand (files.spellsCommand_of_leads leads stamp)

theorem lastWord?_compileText (files : a.StampFiles) (stamp : Artifact × Artifact) :
    Shell.lastWord? (files.compileText "" stamp) = some stamp.2.execPath := by
  rw [Shell.lastWord?, files.words?_compileText (.inl ⟨rfl, rfl⟩), Option.bind_some,
    String.empty_append]
  simp

/-- The linkstamps have their files in one way only. -/
theorem stamps_eq_of_linkstamps (files : a.StampFiles) {stamps : List (Artifact × Artifact)}
    (stamped : a.linkstamps = stamps.map fun stamp => ⟨some stamp.1, some stamp.2⟩) :
    files.stamps = stamps :=
  List.map_injective_iff.2 linkstamp_injective (files.stamps_eq.symm.trans stamped)

end StampFiles

/-- The objects that a link names are those of its linkstamps. -/
theorem objects_eq_of_linkstamps {objects : List Artifact} {stamps : List (Artifact × Artifact)}
    (named : a.linkstampObjects = objects.map some)
    (stamped : a.linkstamps = stamps.map fun stamp => ⟨some stamp.1, some stamp.2⟩) :
    objects = stamps.map (·.2) := by
  have some_objects : objects.map some = (stamps.map (·.2)).map some := by
    rw [← named, linkstampObjects, stamped, List.map_map, List.map_map]
    rfl
  exact List.map_injective_iff.2 (Option.some_injective _) some_objects

theorem exists_outputOptions_eq (a : Action) (output : Artifact) :
    ∃ rest, a.outputOptions output = "-o" :: rest := by
  unfold outputOptions
  split <;> exact ⟨_, rfl⟩

/-- An executable names the objects of its linkstamps in front of its output. -/
theorem exists_rawCommand_eq_of_executable {link : List String} (files : a.StampFiles)
    (executable : a.target = .executable) (raw : a.rawCommand = .ok link) :
    ∃ rest, link = a.toolchain.compiler :: a.symbolCountsOption ++
      files.stamps.map (·.2.execPath) ++ "-o" :: rest := by
  obtain ⟨-, compiler, compiled, rfl⟩ | ⟨other, -⟩ | ⟨other, -⟩ := rawCommand_cases raw
  · obtain ⟨objects, output, inputs, named, -, -, rfl⟩ := compilerCommand_eq_ok compiled
    obtain rfl := objects_eq_of_linkstamps named files.stamps_eq
    obtain ⟨options, first⟩ := a.exists_outputOptions_eq output
    simp only [executable, List.map_map, List.append_assoc, reduceCtorEq, if_false, List.nil_append,
      first, List.cons_append]
    exact ⟨_, rfl⟩
  · rw [executable] at other
    cases other
  · rw [executable] at other
    cases other

/-- **The text in front of linkstamp objects** changes the last word of each compile and nothing
else: it is written as it is, and characters that mean nothing to the shell stand for themselves
there. Without it the last words of the compiles are the arguments between the compiler, with the
option for symbol counts, and the `-o` of an executable. -/
theorem stampCommands_behind_prefix (complete : a.IsComplete) : ∃ files : a.StampFiles,
    (∀ objectPrefix, a.stampCommands objectPrefix = .ok (files.stamps.map fun stamp =>
      files.sourceText stamp.1 ++ " -o " ++ objectPrefix ++ Shell.quote stamp.2.execPath)) ∧
    (∀ objectPrefix, (∀ c ∈ objectPrefix.toList, Shell.isSafe c = true) →
      ∀ stamp ∈ files.stamps, ∃ words,
        Shell.words? (files.sourceText stamp.1) = some words ∧
        Shell.words? (files.sourceText stamp.1 ++ " -o " ++ objectPrefix ++
            Shell.quote stamp.2.execPath) =
          some (words ++ ["-o", objectPrefix ++ stamp.2.execPath])) ∧
    ∀ link, a.target = .executable → a.rawCommand = .ok link →
      ∃ commands objects rest, a.stampCommands "" = .ok commands ∧
        commands.map Shell.lastWord? = objects.map some ∧
        link = a.toolchain.compiler :: a.symbolCountsOption ++ objects ++ "-o" :: rest := by
  obtain ⟨files⟩ := complete.nonempty_stampFiles
  refine ⟨files, fun objectPrefix => ?_, fun objectPrefix safe stamp _ => ?_,
    fun link executable raw => ?_⟩
  · simp only [files.stampCommands_eq, ← files.compileText_eq]
  · rw [← files.compileText_eq]
    exact ⟨_, files.words?_sourceText stamp.1,
      files.words?_compileText (Shell.leads_of_isSafe safe) stamp⟩
  · obtain ⟨rest, shape⟩ := exists_rawCommand_eq_of_executable files executable raw
    refine ⟨_, _, rest, files.stampCommands_eq "", ?_, shape⟩
    simp only [List.map_map, Function.comp_def, files.lastWord?_compileText]

theorem stampCommands_hostileAction_behind_prefix :
    (∃ front words, hostileAction.stampCommands "out/" = .ok [front ++ " -o out/'s;1.o'"] ∧
      Shell.words? front = some words ∧
      Shell.words? (front ++ " -o out/'s;1.o'") = some (words ++ ["-o", "out/s;1.o"])) ∧
    ∃ command, hostileAction.stampCommands "" = .ok [command] ∧
      Shell.lastWord? command = some "s;1.o" ∧
      hostileAction.rawCommand = .ok ["g cc", "s;1.o", "-o", "bin/a b", "&&", "é"] := by
  have raw : hostileAction.rawCommand = .ok ["g cc", "s;1.o", "-o", "bin/a b", "&&", "é"] := rfl
  have quoted : Shell.quote "s;1.o" = "'s;1.o'" := by decide
  obtain ⟨files, written, read, named⟩ := stampCommands_behind_prefix (a := hostileAction)
    ⟨rfl, by simp [hostileAction], by simp [hostileAction, inputs], by simp [hostileAction]⟩
  have one : files.stamps = [(hostileSource, hostileObject)] := files.stamps_eq_of_linkstamps rfl
  simp only [one, List.map_singleton, List.forall_mem_singleton] at written read
  constructor
  · obtain ⟨words, front, whole⟩ := read "out/" (List.all_eq_true.1 (by decide))
    have option (s : String) :
        s ++ " -o " ++ "out/" ++ Shell.quote hostileObject.execPath = s ++ " -o out/'s;1.o'" := by
      rw [show hostileObject.execPath = "s;1.o" from rfl, quoted]
      simp only [String.append_assoc]
      rfl
    rw [option] at whole
    exact ⟨_, words, by rw [written, option], front, whole⟩
  · obtain ⟨commands, objects, rest, compiled, last, link⟩ := named _ rfl raw
    cases compiled.symm.trans (written "")
    have length : objects.length = 1 := by simpa using (congrArg List.length last).symm
    obtain ⟨object, rfl⟩ := List.length_eq_one_iff.1 length
    have same : some "s;1.o" = some object := congrArg (fun words => words[1]?) link
    rw [List.map_singleton, List.map_singleton, List.cons.injEq, ← same] at last
    exact ⟨_, compiled, last.1, raw⟩

end Action
end LinkSynthesis

import Mathlib.Data.List.Nodup
import LinkSynthesis.Proofs.Action.DraftSession
import LinkSynthesis.Proofs.Command.ObjectPrefix
import LinkSynthesis.Proofs.Path.Segments
import LinkSynthesis.Proofs.Program.CommandFiles

/-!
# Object files of linkstamps

The compiles of an action run one after another, and each writes its object over whatever file has
that path. A draft is refused if a source is compiled twice; the objects are not looked at. So no
compile writes over another just if no two linkstamps have one object path, and each object that the
link reads was compiled from its own source just if linkstamps of one object path have one source
path (`objectFiles_of_build`).
-/

namespace LinkSynthesis

/-! ### Running compiles -/

/-- A compile: the source that it reads and the object that it writes. -/
structure Compile where
  source : String
  object : String
deriving DecidableEq

namespace Compile

/-- The compile that the words of a command end in. -/
def ofWords? (words : List String) : Option Compile :=
  match words.reverse with
  | object :: "-o" :: source :: "-c" :: _ => some ⟨source, object⟩
  | _ => none

/-- The file that is written. -/
def file (c : Compile) : Path := .parse c.object

end Compile

/-- Object files, each with the source that it was compiled from. -/
abbrev ObjectFiles := Path → Option String

namespace ObjectFiles

variable {compiles : List Compile}

/-- One compile writes its file over. -/
def step (files : ObjectFiles) (c : Compile) : ObjectFiles :=
  Function.update files c.file (some c.source)

/-- The files after some compiles. -/
def run (files : ObjectFiles) (compiles : List Compile) : ObjectFiles := compiles.foldl step files

theorem run_cons (files : ObjectFiles) (c : Compile) (compiles : List Compile) :
    files.run (c :: compiles) = (files.step c).run compiles := rfl

theorem run_of_notMem {file : Path} (h : file ∉ compiles.map Compile.file) (files : ObjectFiles) :
    files.run compiles file = files file := by
  induction compiles generalizing files with
  | nil => rfl
  | cons c compiles ih =>
    rw [List.map_cons, List.mem_cons, not_or] at h
    rw [run_cons, ih h.2, step, Function.update_of_ne h.1]

/-- Compiles of one file from one source leave it with that source. -/
theorem run_of_mem
    (agree : ∀ c ∈ compiles, ∀ c' ∈ compiles, c.file = c'.file → c.source = c'.source)
    {c : Compile} (hc : c ∈ compiles) (files : ObjectFiles) :
    files.run compiles c.file = some c.source := by
  induction compiles generalizing files c with
  | nil => cases hc
  | cons first compiles ih =>
    have rest : ∀ c ∈ compiles, ∀ c' ∈ compiles, c.file = c'.file → c.source = c'.source :=
      fun c hc c' hc' => agree c (.tail _ hc) c' (.tail _ hc')
    rw [run_cons]
    by_cases again : c.file ∈ compiles.map Compile.file
    · -- The file is written later, from a source that must be the same.
      obtain ⟨c', hc', same⟩ := List.mem_map.1 again
      rw [← same, ih rest hc', agree c' (.tail _ hc') c hc same]
    · rcases List.mem_cons.1 hc with rfl | hc
      · rw [run_of_notMem again, step, Function.update_self]
      · exact absurd (List.mem_map_of_mem hc) again

/-- Every file holds what was compiled for it just if none is compiled from two sources. -/
theorem run_eq_iff (files : ObjectFiles) (compiles : List Compile) :
    (∀ c ∈ compiles, files.run compiles c.file = some c.source) ↔
      ∀ c ∈ compiles, ∀ c' ∈ compiles, c.file = c'.file → c.source = c'.source := by
  refine ⟨fun h c hc c' hc' same => ?_, fun agree c hc => run_of_mem agree hc files⟩
  have first := h c hc
  rw [same, h c' hc'] at first
  exact (Option.some.inj first).symm

end ObjectFiles

/-! ### Linkstamps -/

namespace Action

variable {a : Action} {stamps : List (Artifact × Artifact)}

/-- The compiles of linkstamps, with a text in front of each object. -/
def compilesOf (lead : String) (stamps : List (Artifact × Artifact)) : List Compile :=
  stamps.map fun stamp => ⟨stamp.1.execPath, lead ++ stamp.2.execPath⟩

/-- A command compiles a linkstamp to its object behind a prefix. What the shell makes of the prefix
is part of the name of the object. -/
def IsCompileOf (objectPrefix command : String) (stamp : Artifact × Artifact) : Prop :=
  (∃ front, command = front ++ " -o " ++ objectPrefix ++ Shell.quote stamp.2.execPath) ∧
    ∀ lead, Shell.Leads objectPrefix lead →
      (Shell.words? command).bind Compile.ofWords? =
        some ⟨stamp.1.execPath, lead ++ stamp.2.execPath⟩

/-- No two linkstamps have one object path. -/
def ObjectsApart (stamps : List (Artifact × Artifact)) : Prop :=
  ∀ stamp ∈ stamps, ∀ other ∈ stamps, stamp ≠ other → stamp.2.path ≠ other.2.path

theorem map_file_compilesOf (lead : String) (stamps : List (Artifact × Artifact)) :
    (compilesOf lead stamps).map Compile.file =
      stamps.map fun stamp => Path.parse (lead ++ stamp.2.execPath) := by
  rw [compilesOf, List.map_map]
  rfl

theorem nodup_files_iff (distinct : stamps.Nodup) :
    ((compilesOf "" stamps).map Compile.file).Nodup ↔ ObjectsApart stamps := by
  simp only [map_file_compilesOf, String.empty_append, List.nodup_map_iff_inj_on distinct]
  exact forall₂_congr fun stamp _ => forall₂_congr fun other _ => not_imp_not.symm

/-- Objects of one anchor stay apart behind any text. -/
theorem nodup_files_of_apart (distinct : stamps.Nodup) (apart : ObjectsApart stamps)
    (anchor : ∀ stamp ∈ stamps, ∀ other ∈ stamps, stamp.2.path.anchor = other.2.path.anchor)
    (lead : String) : ((compilesOf lead stamps).map Compile.file).Nodup := by
  rw [map_file_compilesOf]
  refine distinct.map_on fun stamp hs other ho same => ?_
  by_contra different
  exact apart stamp hs other ho different (Path.parse_eq_of_append_eq stamp.2.execPath_ne_empty
    other.2.execPath_ne_empty (anchor stamp hs other ho) same)

namespace StampFiles

theorem ofWords?_compileWords (files : a.StampFiles) (source : Artifact) (object : String) :
    Compile.ofWords? (files.sourceWords source ++ ["-o", object]) =
      some ⟨source.execPath, object⟩ := by
  simp [Compile.ofWords?, sourceWords]

theorem isCompileOf_compileText (files : a.StampFiles) (objectPrefix : String)
    (stamp : Artifact × Artifact) :
    IsCompileOf objectPrefix (files.compileText objectPrefix stamp) stamp := by
  refine ⟨⟨_, files.compileText_eq objectPrefix stamp⟩, fun lead leads => ?_⟩
  rw [files.words?_compileText leads, Option.bind_some, ofWords?_compileWords]

end StampFiles

/-- The objects of linkstamps are among the arguments of a link, but for a `-pie` that a dynamic
library does not keep. -/
theorem mem_rawCommand_of_mem_stamps {d : Draft} (built : d.build = .ok a) {link : List String}
    (raw : a.rawCommand = .ok link)
    (stamped : a.linkstamps = stamps.map fun stamp => ⟨some stamp.1, some stamp.2⟩)
    {stamp : Artifact × Artifact} (hs : stamp ∈ stamps)
    (kept : a.target = .executable ∨ stamp.2.execPath ≠ "-pie") : stamp.2.execPath ∈ link := by
  have named {compiler : List String} (compiled : a.compilerCommand = .ok compiler) :
      stamp.2.execPath ∈ compiler := by
    obtain ⟨objects, output, inputs, named, -, -, rfl⟩ := compilerCommand_eq_ok compiled
    obtain rfl := objects_eq_of_linkstamps named stamped
    have object : stamp.2.execPath ∈ (stamps.map (·.2)).map (·.execPath) :=
      List.mem_map_of_mem (List.mem_map_of_mem hs)
    simp only [List.mem_append, object, or_true, true_or]
  obtain ⟨-, compiler, compiled, rfl⟩ | ⟨dynamic, wrapper, compiler, -, compiled, rfl⟩ |
    ⟨archive, -⟩ := rawCommand_cases raw
  · exact List.mem_append_left _ (named compiled)
  · have other : stamp.2.execPath ≠ "-pie" := kept.resolve_left (by simp [dynamic])
    refine List.mem_append_left _ (List.mem_filter.2 ⟨?_, by simpa using other⟩)
    exact List.mem_append_right _ (named compiled)
  · rw [Draft.linkstamps_of_build built archive] at stamped
    rw [List.map_eq_nil_iff.1 stamped.symm] at hs
    cases hs

/-- Linkstamps that were compiled have their files, and there is a compile for each of them. -/
theorem exists_stamps_of_stampCommands {d : Draft} {objectPrefix : String} {commands : List String}
    (built : d.build = .ok a) (compiled : a.stampCommands objectPrefix = .ok commands) :
    ∃ stamps : List (Artifact × Artifact),
      a.linkstamps = stamps.map (fun stamp => ⟨some stamp.1, some stamp.2⟩) ∧
      List.Forall₂ (IsCompileOf objectPrefix) commands stamps := by
  by_cases none : a.linkstamps = []
  · cases (stampCommands_of_nil none objectPrefix).symm.trans compiled
    exact ⟨[], none, .nil⟩
  · obtain ⟨files⟩ := nonempty_stampFiles_of_stampCommands built none compiled
    cases (files.stampCommands_eq objectPrefix).symm.trans compiled
    refine ⟨files.stamps, files.stamps_eq, ?_⟩
    rw [List.forall₂_map_left_iff, List.forall₂_same]
    exact fun stamp _ => files.isCompileOf_compileText objectPrefix stamp

/-- **The object files of linkstamps.** A compile writes the file that its object names behind the
prefix, and the link reads the objects without one. Linkstamps write over each other if they share
an object path; if they do not, no prefix can bring objects of one anchor together. -/
theorem objectFiles_of_build {d : Draft} {objectPrefix : String} {commands : List String}
    (built : d.build = .ok a) (compiled : a.stampCommands objectPrefix = .ok commands) :
    ∃ stamps : List (Artifact × Artifact),
      a.linkstamps = stamps.map (fun stamp => ⟨some stamp.1, some stamp.2⟩) ∧
      List.Forall₂ (IsCompileOf objectPrefix) commands stamps ∧
      (((compilesOf "" stamps).map Compile.file).Nodup ↔ ObjectsApart stamps) ∧
      (ObjectsApart stamps →
        (∀ stamp ∈ stamps, ∀ other ∈ stamps, stamp.2.path.anchor = other.2.path.anchor) →
        ∀ lead, ((compilesOf lead stamps).map Compile.file).Nodup) ∧
      ((∀ files : ObjectFiles, ∀ stamp ∈ stamps,
          files.run (compilesOf "" stamps) stamp.2.path = some stamp.1.execPath) ↔
        ∀ stamp ∈ stamps, ∀ other ∈ stamps, stamp.2.path = other.2.path →
          stamp.1.execPath = other.1.execPath) ∧
      ∀ link, a.rawCommand = .ok link → ∀ stamp ∈ stamps,
        a.target = .executable ∨ stamp.2.execPath ≠ "-pie" → stamp.2.execPath ∈ link := by
  obtain ⟨stamps, stamped, written⟩ := exists_stamps_of_stampCommands built compiled
  have distinct : stamps.Nodup := by
    have sources := Draft.nodup_sources_of_build built
    rw [stamped, List.map_map] at sources
    exact sources.of_map
  have holds (files : ObjectFiles) := files.run_eq_iff (compilesOf "" stamps)
  simp only [compilesOf, List.forall_mem_map, String.empty_append] at holds
  refine ⟨stamps, stamped, written, nodup_files_iff distinct, nodup_files_of_apart distinct, ?_,
    fun link raw stamp hs kept => mem_rawCommand_of_mem_stamps built raw stamped hs kept⟩
  simp only [compilesOf, String.empty_append]
  exact ⟨fun h => (holds fun _ => none).1 (h _), fun agree files => (holds files).2 agree⟩

/-- The link of an executable with two linkstamps of given objects. -/
def stampedDraft (first second : Artifact) : Draft where
  toolchain := {}
  ownerLabel := "//pkg:app"
  target := some .executable
  output := some ⟨"bin/app", "bin", by decide, by decide +kernel⟩
  linkstamps := [
    ⟨some ⟨"pkg/a.cc", "", by decide, .inl rfl⟩, some first⟩,
    ⟨some ⟨"pkg/b.cc", "", by decide, .inl rfl⟩, some second⟩]

/-- An object of a linkstamp. -/
def stampObject : Artifact := ⟨"bin/stamp.o", "", by decide, .inl rfl⟩

/-- The object of the same name below the root of the file system. -/
def rootObject : Artifact := ⟨"/bin/stamp.o", "", by decide, .inl rfl⟩

/-- A further object, in a directory whose name has a blank in it. -/
def otherObject : Artifact := ⟨"bin/b b/stamp.o", "", by decide, .inl rfl⟩

theorem stampCommands_stampedDraft (first second : Artifact) {objectPrefix lead : String}
    (leads : Shell.Leads objectPrefix lead) : ∃ commands,
      ((stampedDraft first second).toAction .executable).stampCommands objectPrefix =
        .ok commands ∧
      commands.map (fun command => (Shell.words? command).bind Compile.ofWords?) =
        [some ⟨"pkg/a.cc", lead ++ first.execPath⟩,
          some ⟨"pkg/b.cc", lead ++ second.execPath⟩] := by
  let files : ((stampedDraft first second).toAction .executable).StampFiles :=
    ⟨_, [], [(_, first), (_, second)], rfl, rfl, rfl⟩
  have read (stamp : Artifact × Artifact) :=
    (files.isCompileOf_compileText objectPrefix stamp).2 lead leads
  refine ⟨_, files.stampCommands_eq objectPrefix, ?_⟩
  rw [List.map_map, List.map_cons, List.map_singleton, Function.comp_apply, Function.comp_apply,
    read, read]

theorem objectFiles_of_stampedDraft : ∃ a commands,
    (stampedDraft stampObject otherObject).build = .ok a ∧ a.stampCommands "out/" = .ok commands ∧
    commands.map (fun command => (Shell.words? command).bind Compile.ofWords?) =
      [some ⟨"pkg/a.cc", "out/bin/stamp.o"⟩, some ⟨"pkg/b.cc", "out/bin/b b/stamp.o"⟩] ∧
    ∀ files : ObjectFiles,
      let after := files.run [⟨"pkg/a.cc", "bin/stamp.o"⟩, ⟨"pkg/b.cc", "bin/b b/stamp.o"⟩]
      after (.parse "bin/stamp.o") = some "pkg/a.cc" ∧
        after (.parse "bin/b b/stamp.o") = some "pkg/b.cc" := by
  have built : (stampedDraft stampObject otherObject).build =
      .ok ((stampedDraft stampObject otherObject).toAction .executable) := rfl
  have leads : Shell.Leads "out/" "out/" :=
    Shell.leads_of_isSafe (List.all_eq_true.1 (by decide))
  obtain ⟨commands, compiled, words⟩ := stampCommands_stampedDraft stampObject otherObject leads
  obtain ⟨stamps, stamped, -, -, -, read, -⟩ := objectFiles_of_build built compiled
  obtain rfl : [(⟨"pkg/a.cc", "", by decide, .inl rfl⟩, stampObject),
      (⟨"pkg/b.cc", "", by decide, .inl rfl⟩, otherObject)] = stamps :=
    List.map_injective_iff.2 linkstamp_injective stamped
  have agree (files : ObjectFiles) := read.2 (by decide +kernel) files
  simp only [List.forall_mem_cons] at agree
  exact ⟨_, commands, built, compiled, words, fun files => ⟨(agree files).1, (agree files).2.1⟩⟩

/-- Two sources that are compiled to one object: the draft is built, and the first compile is lost
although the link reads its object. Behind a prefix, a relative and an absolute object can meet. -/
theorem objectFiles_of_sharedObject :
    (∃ a commands, (stampedDraft stampObject stampObject).build = .ok a ∧
      a.stampCommands "" = .ok commands ∧
      commands.map (fun command => (Shell.words? command).bind Compile.ofWords?) =
        [some ⟨"pkg/a.cc", "bin/stamp.o"⟩, some ⟨"pkg/b.cc", "bin/stamp.o"⟩] ∧
      a.rawCommand = .ok ["/usr/bin/gcc", "bin/stamp.o", "bin/stamp.o", "-o", "bin/app"] ∧
      ∀ files : ObjectFiles,
        files.run [⟨"pkg/a.cc", "bin/stamp.o"⟩, ⟨"pkg/b.cc", "bin/stamp.o"⟩]
          (.parse "bin/stamp.o") = some "pkg/b.cc") ∧
    ∃ a commands, (stampedDraft stampObject rootObject).build = .ok a ∧
      a.stampCommands "out/" = .ok commands ∧
      commands.map (fun command => (Shell.words? command).bind Compile.ofWords?) =
        [some ⟨"pkg/a.cc", "out/bin/stamp.o"⟩, some ⟨"pkg/b.cc", "out//bin/stamp.o"⟩] ∧
      Path.parse "out/bin/stamp.o" = Path.parse "out//bin/stamp.o" := by
  constructor
  · obtain ⟨commands, compiled, words⟩ :=
      stampCommands_stampedDraft stampObject stampObject (.inl ⟨rfl, rfl⟩)
    refine ⟨_, commands, rfl, compiled, words, by decide +kernel, fun files => ?_⟩
    simp [ObjectFiles.run, ObjectFiles.step, Compile.file]
  · have leads : Shell.Leads "out/" "out/" :=
      Shell.leads_of_isSafe (List.all_eq_true.1 (by decide))
    obtain ⟨commands, compiled, words⟩ := stampCommands_stampedDraft stampObject rootObject leads
    exact ⟨_, commands, rfl, compiled, words, by decide +kernel⟩

end Action
end LinkSynthesis

import LinkSynthesis.Proofs.Artifact.FileType
import LinkSynthesis.Proofs.Command.InputOptions

/-!
# The grammar of file names

The names of each file type, said without patterns. A line break at the end takes no part and no
other line break may occur; apart from versions, the ending decides, and the `.pic` in front of the
ending of an archive makes no difference. A version is a row of numbers in decimal digits of any
script, and it stands behind `lib`, some text and `.so` (`names_of_fileTypes`). So the name of a
shared library ends in a digit or in an ending that no archive has.
-/

namespace LinkSynthesis

namespace Text.Pattern

variable {p : Pattern} {s : List Char} {ok : Char → Bool}

/-- The texts of a repetition are made of texts of its pattern. -/
theorem matches_many_iff : Matches (.many p) s ↔
    ∃ rounds : List (List Char), (∀ round ∈ rounds, Matches p round) ∧ s = rounds.flatten := by
  constructor
  · intro h
    generalize hr : Pattern.many p = r at h
    induction h with
    | manyNil => exact ⟨[], List.forall_mem_nil _, rfl⟩
    | manyCons first _ _ ih =>
      cases hr
      obtain ⟨rounds, others, rfl⟩ := ih rfl
      exact ⟨_ :: rounds, List.forall_mem_cons.2 ⟨first, others⟩, rfl⟩
    | _ => cases hr
  · rintro ⟨rounds, all, rfl⟩
    induction rounds with
    | nil => exact .manyNil
    | cons round rounds ih =>
      obtain ⟨first, others⟩ := List.forall_mem_cons.1 all
      exact .manyCons first (ih others)

theorem matches_oneOrMore_iff : Matches p.oneOrMore s ↔ ∃ rounds : List (List Char),
    rounds ≠ [] ∧ (∀ round ∈ rounds, Matches p round) ∧ s = rounds.flatten := by
  simp only [oneOrMore, matches_seq_iff, matches_many_iff]
  constructor
  · rintro ⟨round, _, rfl, first, rounds, others, rfl⟩
    exact ⟨round :: rounds, List.cons_ne_nil _ _, List.forall_mem_cons.2 ⟨first, others⟩, rfl⟩
  · rintro ⟨_ | ⟨round, rounds⟩, nonempty, all, rfl⟩
    · contradiction
    · obtain ⟨first, others⟩ := List.forall_mem_cons.1 all
      exact ⟨round, rounds.flatten, rfl, first, rounds, others, rfl⟩

/-- A run of characters of a class, with at least one of them. -/
theorem matches_oneOrMore_one_iff :
    Matches (one ok).oneOrMore s ↔ s ≠ [] ∧ ∀ c ∈ s, ok c = true := by
  simp only [oneOrMore, matches_seq_iff, matches_one_iff, matches_many_one_iff]
  constructor
  · rintro ⟨_, others, rfl, ⟨c, rfl, first⟩, rest⟩
    exact ⟨List.cons_ne_nil _ _, List.forall_mem_cons.2 ⟨first, rest⟩⟩
  · rintro ⟨nonempty, all⟩
    obtain ⟨c, others, rfl⟩ := List.exists_cons_of_ne_nil nonempty
    obtain ⟨first, rest⟩ := List.forall_mem_cons.1 all
    exact ⟨[c], others, rfl, ⟨c, rfl, first⟩, rest⟩

end Text.Pattern

namespace FileType
open Text Text.Pattern

variable {s : List Char} {name : String}

/-! ### Versions -/

/-- A number is a run of decimal digits of any script. -/
def IsNumber (s : List Char) : Prop := s ≠ [] ∧ ∀ c ∈ s, isDecimalDigit c = true

/-- The name has a text between `lib` and `.so`, and numbers behind, with a dot in front of each. -/
def IsVersioned (s : List Char) : Prop :=
  ∃ (stem : List Char) (numbers : List (List Char)), stem ≠ [] ∧ numbers ≠ [] ∧
    (∀ number ∈ numbers, IsNumber number) ∧
    s = "lib".toList ++ stem ++ ".so".toList ++ numbers.flatMap ('.' :: ·)

/-- A version is a row of numbers with dots in front. -/
theorem matches_version_iff :
    Matches (oneOrMore (.seq (literal ".") (oneOrMore (.one isDecimalDigit)))) s ↔
      ∃ numbers : List (List Char), numbers ≠ [] ∧ (∀ number ∈ numbers, IsNumber number) ∧
        s = numbers.flatMap ('.' :: ·) := by
  have round (t : List Char) : Matches (.seq (literal ".") (oneOrMore (.one isDecimalDigit))) t ↔
      ∃ number, IsNumber number ∧ t = '.' :: number := by
    simp only [matches_seq_iff, matches_literal_iff, matches_oneOrMore_one_iff]
    constructor
    · rintro ⟨_, number, rfl, rfl, hn⟩
      exact ⟨number, hn, rfl⟩
    · rintro ⟨number, hn, rfl⟩
      exact ⟨_, number, rfl, rfl, hn⟩
  simp only [matches_oneOrMore_iff, round]
  constructor
  · rintro ⟨rounds, nonempty, all, rfl⟩
    refine ⟨rounds.map List.tail, by simpa using nonempty, List.forall_mem_map.2 fun t ht => ?_, ?_⟩
    · obtain ⟨number, hn, rfl⟩ := all t ht
      exact hn
    · rw [List.flatMap_map]
      refine List.flatMap_id.symm.trans (List.flatMap_congr fun t ht => ?_)
      obtain ⟨number, -, rfl⟩ := all t ht
      rfl
  · rintro ⟨numbers, nonempty, all, rfl⟩
    exact ⟨numbers.map ('.' :: ·), by simpa using nonempty,
      List.forall_mem_map.2 fun number hn => ⟨number, all number hn, rfl⟩, List.flatMap_def⟩

/-- A version lies in one line. -/
theorem newline_notMem_version {numbers : List (List Char)}
    (h : ∀ number ∈ numbers, IsNumber number) : '\n' ∉ numbers.flatMap ('.' :: ·) := by
  intro broken
  obtain ⟨number, hn, hc⟩ := List.mem_flatMap.1 broken
  have inside : '\n' ∈ number := (List.mem_cons.1 hc).resolve_left (by decide)
  cases isDecimalDigit_newline.symm.trans ((h number hn).2 _ inside)

theorem matches_versionedSharedLibrary_iff :
    Matches versionedSharedLibrary s ↔ '\n' ∉ s ∧ IsVersioned s := by
  have stems (t : List Char) : Matches (oneOrMore inLine) t ↔ t ≠ [] ∧ '\n' ∉ t := by
    rw [← matches_anything_iff, inLine, matches_oneOrMore_one_iff, anything, inLine,
      matches_many_one_iff]
  constructor
  · intro h
    obtain ⟨lib, v, rfl, hlib, h⟩ := matches_seq_iff.1 h
    obtain ⟨stem, w, rfl, hstem, h⟩ := matches_seq_iff.1 h
    obtain ⟨so, version, rfl, hso, hversion⟩ := matches_seq_iff.1 h
    obtain rfl := matches_literal_iff.1 hlib
    obtain rfl := matches_literal_iff.1 hso
    obtain ⟨nonempty, line⟩ := (stems stem).1 hstem
    obtain ⟨numbers, some, all, rfl⟩ := matches_version_iff.1 hversion
    refine ⟨?_, stem, numbers, nonempty, some, all, by simp only [List.append_assoc]⟩
    simp only [List.mem_append, not_or]
    exact ⟨by decide, line, by decide, newline_notMem_version all⟩
  · rintro ⟨line, stem, numbers, nonempty, some, all, rfl⟩
    simp only [List.mem_append, not_or] at line
    rw [List.append_assoc, List.append_assoc]
    exact .seq (matches_literal_iff.2 rfl) <| .seq ((stems stem).2 ⟨nonempty, line.1.1.2⟩) <|
      .seq (matches_literal_iff.2 rfl) (matches_version_iff.2 ⟨numbers, some, all, rfl⟩)

/-! ### Shared libraries -/

theorem isSharedLibraryFile_iff : isSharedLibraryFile name = true ↔
    '\n' ∉ lineText name.toList ∧ (".so".toList <:+ lineText name.toList ∨
      ".ifso".toList <:+ lineText name.toList ∨ IsVersioned (lineText name.toList)) := by
  have interface : interfaceSharedLibrary.acceptsLine name.toList = true ↔
      '\n' ∉ lineText name.toList ∧ ".ifso".toList <:+ lineText name.toList :=
    acceptsLine_iff (matches_ending_iff (by decide))
  rw [isSharedLibraryFile, Bool.or_eq_true, Bool.or_eq_true, isSharedLibrary_iff,
    acceptsLine_iff matches_versionedSharedLibrary_iff, interface, ← and_or_left, ← and_or_left,
    or_assoc, or_comm (a := IsVersioned _)]

/-- A versioned name ends in a digit. -/
theorem exists_getLast?_of_isVersioned (h : IsVersioned s) :
    ∃ c ∈ s.getLast?, isDecimalDigit c = true := by
  obtain ⟨stem, numbers, -, some, all, rfl⟩ := h
  obtain ⟨others, number, rfl⟩ := (List.eq_nil_or_concat' numbers).resolve_left some
  obtain ⟨nonempty, digits⟩ := all number List.mem_concat_self
  obtain ⟨front, digit, rfl⟩ := (List.eq_nil_or_concat' number).resolve_left nonempty
  refine ⟨digit, ?_, digits digit List.mem_concat_self⟩
  rw [List.flatMap_append, List.flatMap_singleton, ← List.cons_append, ← List.append_assoc,
    ← List.append_assoc, List.getLast?_concat, Option.mem_some]

/-- No name is both that of an archive and that of a shared library. -/
theorem isSharedLibraryFile_of_isArchive (h : isArchive name = true) :
    isSharedLibraryFile name = false := by
  rw [Bool.eq_false_iff]
  intro shared
  obtain ⟨-, ending⟩ := isArchive_iff.1 h
  have apart {ending' : List Char} (h' : ending' <:+ lineText name.toList)
      (plain : ¬(ending' <:+ ".a".toList ∨ ".a".toList <:+ ending'))
      (alwaysLink : ¬(ending' <:+ ".lo".toList ∨ ".lo".toList <:+ ending')) : False :=
    ending.elim (fun own => plain (List.suffix_or_suffix_of_suffix h' own))
      fun own => alwaysLink (List.suffix_or_suffix_of_suffix h' own)
  rcases (isSharedLibraryFile_iff.1 shared).2 with so | ifso | versioned
  · exact apart so (by decide) (by decide)
  · exact apart ifso (by decide) (by decide)
  · obtain ⟨c, last, digit⟩ := exists_getLast?_of_isVersioned versioned
    rcases ending with ⟨u, hu⟩ | ⟨u, hu⟩ <;>
    · rw [← hu, List.getLast?_append] at last
      cases last
      exact absurd digit (by decide)

/-- No archive is linked as a shared library. -/
theorem isDynamicLibrary_of_isArchive (h : isArchive name = true) :
    isDynamicLibrary name = false := by
  rw [isDynamicLibrary, isSharedLibraryFile_of_isArchive h, Bool.false_and]

/-- An always-link library is not linked as a shared library. -/
theorem isDynamicLibrary_of_isAlwaysLinkLibrary (h : isAlwaysLinkLibrary name = true) :
    isDynamicLibrary name = false :=
  isDynamicLibrary_of_isArchive (isArchive_of_isAlwaysLinkLibrary h)

/-! ### Archives among the inputs -/

theorem isDynamicLibrary_of_isExpandable {input : LinkerInput} {file : Artifact}
    (h : input.isExpandable = true) (hf : input.artifact = some file) :
    file.isDynamicLibrary = false := by
  cases input with
  | plain | fake => cases h
  | archive _ members =>
    cases hf
    rw [LinkerInput.isExpandable, Bool.and_eq_true] at h
    exact isDynamicLibrary_of_isArchive h.1

/-- An input whose members are passed in its place is not linked as a shared library. -/
theorem isDynamicLibrary_of_usesStartEndLib {a : Action} {input : LinkerInput}
    (h : a.usesStartEndLib input = .ok true) : input.isDynamicLibrary = .ok false := by
  cases hf : input.artifact with
  | none =>
    -- Without a file there is no name to expand by.
    cases input with
    | plain | fake => cases h
    | archive _ members =>
      cases hf
      rw [Action.usesStartEndLib] at h
      split at h <;> cases h
  | some file =>
    rw [Action.usesStartEndLib_eq hf, Except.ok.injEq, Bool.and_eq_true] at h
    rw [LinkerInput.isDynamicLibrary, hf, Artifact.require_some, Except.map,
      isDynamicLibrary_of_isExpandable h.2 hf]

/-- **The names of each file type.** Take the name without a line break at its end. If it lies in
one line, it is the name of an archive just if it ends in `.a` or `.lo`, of an always-link library
just if it ends in `.lo`, of a plain shared library just if it ends in `.so`, and of a shared library
of any form just if it ends in `.so` or `.ifso` or is versioned; if it does not lie in one line, it
is none of these. So always-link libraries are archives, no name is both that of a shared library
and that of an archive, and no archive that is passed by its members is linked as a shared
library. -/
theorem names_of_fileTypes (name : String) :
    let line := lineText name.toList
    (isArchive name = true ↔ '\n' ∉ line ∧ (".a".toList <:+ line ∨ ".lo".toList <:+ line)) ∧
    (isAlwaysLinkLibrary name = true ↔ '\n' ∉ line ∧ ".lo".toList <:+ line) ∧
    (isSharedLibrary name = true ↔ '\n' ∉ line ∧ ".so".toList <:+ line) ∧
    (isSharedLibraryFile name = true ↔
      '\n' ∉ line ∧ (".so".toList <:+ line ∨ ".ifso".toList <:+ line ∨ IsVersioned line)) ∧
    (isAlwaysLinkLibrary name = true → isArchive name = true) ∧
    ¬(isSharedLibraryFile name = true ∧ isArchive name = true) ∧
    ∀ (a : Action) (input : LinkerInput),
      a.usesStartEndLib input = .ok true → input.isDynamicLibrary = .ok false := by
  refine ⟨isArchive_iff, isAlwaysLinkLibrary_iff, isSharedLibrary_iff, isSharedLibraryFile_iff,
    isArchive_of_isAlwaysLinkLibrary, ?_, fun a input => isDynamicLibrary_of_usesStartEndLib⟩
  rintro ⟨shared, archive⟩
  cases shared.symm.trans (isSharedLibraryFile_of_isArchive archive)

/-- Digits of any script make a version, and so do several numbers behind a name with `.so` inside;
a version without a text in front of `.so`, or with an empty number, is none. -/
example : isSharedLibraryFile "libz.so.8.so.1.٣\n" = true ∧
    isSharedLibraryFile "lib.so.1" = false ∧ isSharedLibraryFile "libz.so.1..2" = false := by
  decide +kernel

end FileType
end LinkSynthesis

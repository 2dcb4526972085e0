import LinkSynthesis.Proofs.Command.InputTokens

/-!
# Groups of archive members

A toolchain that expands archives passes the members of an archive as a group between two options.
What it means that a command line differs from another one in such groups only (`Regroups`): read
strictly, its groups are there one by one, and with the archives in their places it is the other.
-/

namespace LinkSynthesis

open WholeArchiveMarkers (Piece)

/-- An archive, and the members that are passed in its place. -/
structure MemberGroup where
  archive : Artifact
  members : List Artifact
deriving DecidableEq

/-- The options around the members of an archive, read like the markers of other regions. -/
def memberMarkers : WholeArchiveMarkers := ⟨"-Wl,--start-lib", "-Wl,--end-lib"⟩

namespace MemberGroup

/-- The paths of the members. -/
def paths (group : MemberGroup) : List String := group.members.map (·.execPath)

/-- The group as it is written. -/
def words (group : MemberGroup) : List String := (Piece.region group.paths).words memberMarkers

/-- No file of the group has the path of an always-link library, or is named like `-pie`, the option
that a dynamic library leaves out. A file whose name is none of an always-link library has no such
path either (`FileType.isAlwaysLinkLibrary_filename`). -/
def IsOrdinary (group : MemberGroup) : Prop :=
  ∀ file ∈ group.archive :: group.members,
    FileType.isAlwaysLinkLibrary file.execPath = false ∧ file.execPath ≠ "-pie"

instance : DecidablePred IsOrdinary := fun group =>
  inferInstanceAs (Decidable (∀ file ∈ group.archive :: group.members,
    FileType.isAlwaysLinkLibrary file.execPath = false ∧ file.execPath ≠ "-pie"))

end MemberGroup

/-! ### Regions filled in -/

namespace WholeArchiveMarkers.Piece

/-- What the piece holds between its markers. -/
def region? : Piece → Option (List String)
  | single _ => none
  | region tokens => some tokens

/-- The pieces with one text in place of each region, in their order. -/
def fill : List Piece → List String → List String
  | [], _ => []
  | single token :: pieces, texts => token :: fill pieces texts
  | region _ :: pieces, text :: texts => text :: fill pieces texts
  | region tokens :: pieces, [] => tokens ++ fill pieces []

end WholeArchiveMarkers.Piece

/-! ### Commands with and without groups -/

/-- Two lists of arguments, the first with groups where the second has their archives. -/
inductive Regroups : List MemberGroup → List String → List String → Prop
  | nil : Regroups [] [] []
  | word {groups : List MemberGroup} {grouped plain : List String} {token : String}
      (unmarked : memberMarkers.IsUnmarked token) (rest : Regroups groups grouped plain) :
      Regroups groups (token :: grouped) (token :: plain)
  | group {groups : List MemberGroup} {grouped plain : List String} {group : MemberGroup}
      (unmarked : ∀ path ∈ group.paths, memberMarkers.IsUnmarked path)
      (rest : Regroups groups grouped plain) :
      Regroups (group :: groups) (group.words ++ grouped) (group.archive.execPath :: plain)

variable {groups groups' : List MemberGroup} {grouped grouped' plain plain' tokens : List String}

theorem regroups_self (h : ∀ token ∈ tokens, memberMarkers.IsUnmarked token) :
    Regroups [] tokens tokens := by
  induction tokens with
  | nil => exact .nil
  | cons token tokens ih =>
    obtain ⟨first, others⟩ := List.forall_mem_cons.1 h
    exact .word first (ih others)

namespace Regroups

variable (h : Regroups groups grouped plain)

include h

theorem append (h' : Regroups groups' grouped' plain') :
    Regroups (groups ++ groups') (grouped ++ grouped') (plain ++ plain') := by
  induction h with
  | nil => exact h'
  | word unmarked _ ih => exact .word unmarked ih
  | group unmarked _ ih =>
    rw [List.append_assoc]
    exact .group unmarked ih

theorem behind (front : ∀ token ∈ tokens, memberMarkers.IsUnmarked token) :
    Regroups groups (tokens ++ grouped) (tokens ++ plain) :=
  (regroups_self front).append h

theorem followedBy (back : ∀ token ∈ tokens, memberMarkers.IsUnmarked token) :
    Regroups groups (grouped ++ tokens) (plain ++ tokens) := by
  have both := h.append (regroups_self back)
  rwa [List.append_nil] at both

/-- A change to each argument keeps the groups if it leaves them and their archives alone. -/
theorem flatMap {f : String → List String}
    (opening : f memberMarkers.opening = [memberMarkers.opening])
    (closing : f memberMarkers.closing = [memberMarkers.closing])
    (files : ∀ group ∈ groups, ∀ file ∈ group.archive :: group.members,
      f file.execPath = [file.execPath])
    (unmarked : ∀ token, memberMarkers.IsUnmarked token →
      ∀ token' ∈ f token, memberMarkers.IsUnmarked token') :
    Regroups groups (grouped.flatMap f) (plain.flatMap f) := by
  induction h with
  | nil => exact .nil
  | word own _ ih => exact (regroups_self (unmarked _ own)).append (ih files)
  | @group groups grouped plain group own _ ih =>
    obtain ⟨first, others⟩ := List.forall_mem_cons.1 files
    obtain ⟨archive, members⟩ := List.forall_mem_cons.1 first
    have paths : group.paths.flatMap f = group.paths := by
      rw [MemberGroup.paths, List.flatMap_map, List.flatMap_congr members, List.map_eq_flatMap]
    have words : group.words.flatMap f = group.words := by
      rw [MemberGroup.words, Piece.words_region, List.flatMap_cons, List.flatMap_append, opening,
        paths, List.flatMap_singleton, closing, List.singleton_append]
    rw [List.flatMap_append, words, List.flatMap_cons, archive]
    exact .group own (ih others)

/-- The first list reads as pieces: its regions hold the members of the groups, and with the
archives in place of the regions it is the second. -/
theorem exists_pieces : ∃ pieces, memberMarkers.pieces? none grouped = some pieces ∧
    pieces.filterMap (·.region?) = groups.map (·.paths) ∧
    Piece.fill pieces (groups.map (·.archive.execPath)) = plain := by
  simp only [WholeArchiveMarkers.pieces?_eq_some_iff]
  induction h with
  | nil => exact ⟨[], ⟨rfl, by simp [WholeArchiveMarkers.AreUnmarked]⟩, rfl, rfl⟩
  | @word _ _ _ token unmarked _ ih =>
    obtain ⟨pieces, ⟨rfl, others⟩, regions, rfl⟩ := ih
    refine ⟨.single token :: pieces, ⟨rfl, WholeArchiveMarkers.areUnmarked_cons.2 ⟨?_, others⟩⟩,
      regions, rfl⟩
    exact List.forall_mem_singleton.2 unmarked
  | @group _ _ _ group unmarked _ ih =>
    obtain ⟨pieces, ⟨rfl, others⟩, regions, rfl⟩ := ih
    refine ⟨.region group.paths :: pieces, ⟨rfl, ?_⟩, congrArg (group.paths :: ·) regions, rfl⟩
    exact WholeArchiveMarkers.areUnmarked_cons.2 ⟨unmarked, others⟩

end Regroups

/-! ### Inputs -/

namespace LinkerInput

variable {input : LinkerInput} {group : MemberGroup} {file : Artifact} {tc tc' : Toolchain}
  {token : String}

/-- The group that may stand in the place of the input. -/
def group? (input : LinkerInput) : Option MemberGroup :=
  if input.isExpandable then input.artifact.map (⟨·, input.members.filterMap id⟩) else none

theorem group?_eq_some_iff : input.group? = some group ↔
    input.isExpandable = true ∧ input.artifact = some group.archive ∧
      input.members.filterMap id = group.members := by
  unfold group?
  split
  · next expandable =>
    rw [Option.map_eq_some_iff]
    constructor
    · rintro ⟨file, hf, rfl⟩
      exact ⟨expandable, hf, rfl⟩
    · rintro ⟨-, hf, members⟩
      exact ⟨group.archive, hf, by rw [members]⟩
  · next fixed => simp [fixed]

/-- An input with a group is passed by it, or by the path of the archive. -/
theorem tokens_of_group?_eq_some (h : input.group? = some group) : input.tokens tc =
    if tc.archiveType = .startEndLib then group.words else [group.archive.execPath] := by
  obtain ⟨expandable, hf, members⟩ := group?_eq_some_iff.1 h
  by_cases expands : tc.archiveType = .startEndLib
  · rw [tokens_of_isExpanded ⟨expands, expandable⟩, if_pos expands, memberPaths, members]
    rfl
  · rw [tokens_of_static hf (FileType.isDynamicLibrary_of_isExpandable expandable hf)
      fun both => expands both.1, if_neg expands]
    cases input with
    | archive => rfl
    | plain | fake => cases expandable

/-- An input without a group is passed in one way. -/
theorem tokens_of_group?_eq_none (h : input.group? = none) :
    input.tokens tc = input.tokens tc' := by
  unfold tokens
  cases hf : input.artifact with
  | none => rfl
  | some file =>
    have fixed : input.isExpandable = false := by
      rw [Bool.eq_false_iff]
      intro expandable
      rw [group?, if_pos expandable, hf] at h
      cases h
    simp only [fixed, Bool.false_eq_true, and_false]

/-! ### Arguments that are no markers -/

theorem isUnmarked_of_mem_tokens (plain : tc.archiveType ≠ .startEndLib)
    (named : ∀ file, input.artifact = some file → memberMarkers.IsUnmarked file.execPath)
    (ht : token ∈ input.tokens tc) : memberMarkers.IsUnmarked token := by
  unfold tokens at ht
  split at ht
  · cases ht
  · next file hf =>
    split at ht
    · rw [List.mem_singleton.1 ht, Action.dynamicToken]
      split
      · exact WholeArchiveMarkers.isUnmarked_append (by decide) (by decide) _
      · exact named file hf
    · rw [if_neg fun both => plain both.1] at ht
      split at ht
      · rw [List.mem_singleton.1 ht]
        exact WholeArchiveMarkers.isUnmarked_append (by decide) (by decide) _
      · rw [List.mem_singleton.1 ht]
        exact named file hf

/-- The tokens of an input, with and without groups. -/
theorem regroups_tokens (expands : tc.archiveType = .startEndLib)
    (plain : tc'.archiveType ≠ .startEndLib)
    (named : ∀ file, input.artifact = some file ∨ some file ∈ input.members →
      memberMarkers.IsUnmarked file.execPath) :
    Regroups input.group?.toList (input.tokens tc) (input.tokens tc') := by
  cases hg : input.group? with
  | none =>
    rw [tokens_of_group?_eq_none hg]
    exact regroups_self fun token =>
      isUnmarked_of_mem_tokens plain fun file hf => named file (.inl hf)
  | some group =>
    obtain ⟨-, -, members⟩ := group?_eq_some_iff.1 hg
    have unmarked : ∀ path ∈ group.paths, memberMarkers.IsUnmarked path := by
      intro path hp
      obtain ⟨file, hfile, rfl⟩ := List.mem_map.1 hp
      rw [← members] at hfile
      exact named file (.inr (by simpa using hfile))
    rw [tokens_of_group?_eq_some hg, if_pos expands, tokens_of_group?_eq_some hg, if_neg plain,
      ← List.append_nil group.words]
    exact .group unmarked .nil

theorem regroups_flatMap_tokens {inputs : List LinkerInput}
    (expands : tc.archiveType = .startEndLib) (plain : tc'.archiveType ≠ .startEndLib)
    (named : ∀ input ∈ inputs, ∀ file, input.artifact = some file ∨ some file ∈ input.members →
      memberMarkers.IsUnmarked file.execPath) :
    Regroups (inputs.filterMap (·.group?)) (inputs.flatMap (·.tokens tc))
      (inputs.flatMap (·.tokens tc')) := by
  rw [List.filterMap_eq_flatMap_toList]
  induction inputs with
  | nil => exact .nil
  | cons input inputs ih =>
    obtain ⟨first, others⟩ := List.forall_mem_cons.1 named
    rw [List.flatMap_cons, List.flatMap_cons, List.flatMap_cons]
    exact (regroups_tokens expands plain first).append (ih others)

end LinkerInput
end LinkSynthesis

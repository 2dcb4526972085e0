import Mathlib.Data.List.Basic
import LinkSynthesis.Artifact
import LinkSynthesis.Proofs.Path.Segments

/-!
# Endings of file names

What a file type says about a name: a line break at its end apart, the name lies in one line and has
the ending of the type. So a text in front of the name does not hide it, and the path of an
always-link library is that of a file named like one.
-/

namespace LinkSynthesis

namespace Text.Pattern

variable {p q : Pattern} {s : List Char} {ok : Char → Bool}

/-! ### Texts of the simple patterns -/

theorem matches_one_iff : Matches (.one ok) s ↔ ∃ c, s = [c] ∧ ok c = true := by
  constructor
  · rintro ⟨⟩
    exact ⟨_, rfl, ‹_›⟩
  · rintro ⟨c, rfl, h⟩
    exact .one h

theorem matches_literal_iff {text : String} : Matches (literal text) s ↔ s = text.toList := by
  unfold literal
  induction text.toList generalizing s with
  | nil =>
    constructor
    · rintro ⟨⟩
      rfl
    · rintro rfl
      exact .empty
  | cons c cs ih =>
    rw [List.foldr_cons, matches_seq_iff]
    constructor
    · rintro ⟨u, v, rfl, hu, hv⟩
      obtain ⟨d, rfl, hd⟩ := matches_one_iff.1 hu
      rw [ih.1 hv, beq_iff_eq.1 hd, List.singleton_append]
    · rintro rfl
      exact ⟨[c], cs, rfl, .one (by simp), ih.2 rfl⟩

theorem matches_many_one_iff : Matches (.many (.one ok)) s ↔ ∀ c ∈ s, ok c = true := by
  induction s with
  | nil => exact ⟨fun _ => by simp, fun _ => .manyNil⟩
  | cons c s ih =>
    rw [List.forall_mem_cons]
    constructor
    · intro h
      obtain ⟨u, v, rfl, hu, hv⟩ := matches_many_cons h
      obtain ⟨d, hd, ok⟩ := matches_one_iff.1 hu
      obtain ⟨rfl, rfl⟩ := List.cons.inj hd
      exact ⟨ok, ih.1 hv⟩
    · rintro ⟨ok, rest⟩
      exact .manyCons (s := [c]) (.one ok) (ih.2 rest)

theorem matches_optional_iff : Matches p.optional s ↔ Matches p s ∨ s = [] := by
  rw [optional, matches_alt_iff]
  refine or_congr_right ⟨?_, ?_⟩
  · rintro ⟨⟩
    rfl
  · rintro rfl
    exact .empty

/-! ### Lines -/

/-- The text without a line break at its end. -/
def lineText (s : List Char) : List Char := if s.getLast? = some '\n' then s.dropLast else s

/-- A pattern whose texts lie in one line accepts a line just if the text of the line is one. -/
theorem acceptsLine_iff {P : List Char → Prop} (h : ∀ {t}, Matches p t ↔ '\n' ∉ t ∧ P t) :
    p.acceptsLine s = true ↔ '\n' ∉ lineText s ∧ P (lineText s) := by
  simp only [acceptsLine, lineText, Bool.or_eq_true, Bool.and_eq_true, beq_iff_eq, accepts_iff]
  rw [← h]
  split
  · next broken =>
    have whole : ¬Matches p s := fun accepted => (h.1 accepted).1 (List.mem_of_getLast? broken)
    exact ⟨fun accepted => (accepted.resolve_left whole).2, fun accepted => .inr ⟨broken, accepted⟩⟩
  · next unbroken =>
    exact ⟨fun accepted => accepted.elim id fun cut => absurd cut.1 unbroken, .inl⟩

/-- A text in front of a line is a text in front of the text of the line. -/
theorem lineText_append (t : List Char) (h : s ≠ []) : lineText (t ++ s) = t ++ lineText s := by
  have last : (t ++ s).getLast? = s.getLast? := by
    rw [List.getLast?_append, Option.or_of_isSome (List.getLast?_isSome.2 h)]
  unfold lineText
  rw [last, List.dropLast_append_of_ne_nil h]
  split <;> rfl

end Text.Pattern

namespace FileType
open Text Text.Pattern

variable {s : List Char} {front name : String}

/-! ### File types -/

theorem matches_anything_iff : Matches anything s ↔ '\n' ∉ s := by
  rw [anything, inLine, matches_many_one_iff]
  constructor
  · intro h hn
    simpa using h _ hn
  · intro h c hc
    rw [bne_iff_ne]
    rintro rfl
    exact h hc

/-- The pattern of an ending describes the names in one line that have it. -/
theorem matches_ending_iff {ending : String} (h : '\n' ∉ ending.toList) :
    Matches (.seq anything (literal ending)) s ↔ '\n' ∉ s ∧ ending.toList <:+ s := by
  simp only [matches_seq_iff, matches_anything_iff, matches_literal_iff]
  constructor
  · rintro ⟨u, v, rfl, hu, rfl⟩
    exact ⟨by simp [hu, h], List.suffix_append _ _⟩
  · rintro ⟨hs, u, rfl⟩
    exact ⟨u, _, rfl, fun hu => hs (List.mem_append_left _ hu), rfl⟩

/-- The mark in front of the ending of an archive makes no difference. -/
theorem matches_marked_iff {ending : String} (h : '\n' ∉ ending.toList) :
    Matches (.seq anything <| .seq (.literal ".") <| .seq picMark <| .literal ending) s ↔
      '\n' ∉ s ∧ ("." ++ ending).toList <:+ s := by
  rw [← matches_ending_iff (by simp [h])]
  simp only [picMark, matches_seq_iff, matches_anything_iff, matches_optional_iff,
    matches_literal_iff, String.toList_append]
  constructor
  · rintro ⟨u, v, rfl, hu, dot, w, rfl, rfl, mark, text, rfl, rfl | rfl, rfl⟩
    · exact ⟨u ++ ".pic".toList, ".".toList ++ ending.toList, by simp, by simp [hu], rfl⟩
    · exact ⟨u, ".".toList ++ ending.toList, rfl, hu, rfl⟩
  · rintro ⟨u, v, rfl, hu, rfl⟩
    exact ⟨u, _, rfl, hu, ".".toList, ending.toList, rfl, rfl, [], _, rfl, .inr rfl, rfl⟩

theorem matches_alwaysLinkLibrary_iff :
    Matches alwaysLinkLibrary s ↔ '\n' ∉ s ∧ ".lo".toList <:+ s :=
  matches_marked_iff (by decide)

theorem matches_archive_iff :
    Matches archive s ↔ '\n' ∉ s ∧ (".a".toList <:+ s ∨ ".lo".toList <:+ s) := by
  have plain : Matches (.seq anything <| .seq (.literal ".") <| .seq picMark <| .literal "a") s ↔
      '\n' ∉ s ∧ ".a".toList <:+ s :=
    matches_marked_iff (by decide)
  rw [and_or_left, ← plain, ← matches_alwaysLinkLibrary_iff]
  simp only [archive, alwaysLinkLibrary, matches_seq_iff, matches_alt_iff]
  grind

theorem isSharedLibrary_iff : isSharedLibrary name = true ↔
    '\n' ∉ lineText name.toList ∧ ".so".toList <:+ lineText name.toList :=
  acceptsLine_iff (matches_ending_iff (by decide))

theorem isAlwaysLinkLibrary_iff : isAlwaysLinkLibrary name = true ↔
    '\n' ∉ lineText name.toList ∧ ".lo".toList <:+ lineText name.toList :=
  acceptsLine_iff matches_alwaysLinkLibrary_iff

theorem isArchive_iff : isArchive name = true ↔ '\n' ∉ lineText name.toList ∧
    (".a".toList <:+ lineText name.toList ∨ ".lo".toList <:+ lineText name.toList) :=
  acceptsLine_iff matches_archive_iff

/-- An always-link library is an archive. -/
theorem isArchive_of_isAlwaysLinkLibrary (h : isAlwaysLinkLibrary name = true) :
    isArchive name = true :=
  isArchive_iff.2 ((isAlwaysLinkLibrary_iff.1 h).imp_right .inr)

/-! ### Names behind other texts -/

/-- An ending that begins in none of the characters in front lies behind them. -/
theorem suffix_of_cons_suffix_append {c : Char} {ending u v : List Char} (hc : c ∉ u)
    (h : c :: ending <:+ u ++ v) : c :: ending <:+ v := by
  rcases List.suffix_or_suffix_of_suffix h (List.suffix_append u v) with behind | ⟨t, ht⟩
  · exact behind
  · cases t with
    | nil => exact ⟨[], ht.symm⟩
    | cons d t =>
      obtain ⟨rfl, rfl⟩ := List.cons.inj ht
      obtain ⟨s, hs⟩ := h
      have front : s ++ d :: t = u := by
        rw [← List.append_cancel_right_eq _ v, ← hs]
        simp
      exact absurd (front ▸ List.mem_append_right s (.head t)) hc

theorem isAlwaysLinkLibrary_append_iff (line : '\n' ∉ front.toList) (named : name ≠ "") :
    isAlwaysLinkLibrary (front ++ name) = true ↔
      '\n' ∉ lineText name.toList ∧ ".lo".toList <:+ front.toList ++ lineText name.toList := by
  have named : name.toList ≠ [] := by simpa using named
  rw [isAlwaysLinkLibrary_iff, String.toList_append, lineText_append _ named, List.mem_append]
  simp only [line, false_or]

/-- An always-link library is one from wherever it is named. -/
theorem isAlwaysLinkLibrary_append (line : '\n' ∉ front.toList)
    (h : isAlwaysLinkLibrary name = true) : isAlwaysLinkLibrary (front ++ name) = true := by
  have named : name ≠ "" := by
    rintro rfl
    revert h
    decide
  obtain ⟨unbroken, ending⟩ := isAlwaysLinkLibrary_iff.1 h
  exact (isAlwaysLinkLibrary_append_iff line named).2
    ⟨unbroken, ending.trans (List.suffix_append _ _)⟩

/-- A text in front that holds no dot takes no part in an ending. -/
theorem isAlwaysLinkLibrary_append_eq (line : '\n' ∉ front.toList) (dot : '.' ∉ front.toList)
    (name : String) : isAlwaysLinkLibrary (front ++ name) = isAlwaysLinkLibrary name := by
  refine Bool.eq_iff_iff.2 ⟨fun h => ?_, isAlwaysLinkLibrary_append line⟩
  by_cases named : name = ""
  · -- The ending would lie in the text in front.
    rw [named, String.append_empty] at h
    have inside := (isAlwaysLinkLibrary_iff.1 h).2.subset (.head _)
    unfold lineText at inside
    split at inside
    · exact absurd (List.dropLast_subset _ inside) dot
    · exact absurd inside dot
  · obtain ⟨unbroken, ending⟩ := (isAlwaysLinkLibrary_append_iff line named).1 h
    exact isAlwaysLinkLibrary_iff.2 ⟨unbroken, suffix_of_cons_suffix_append dot ending⟩

/-! ### Names of files -/

theorem lineText_append_slash (front piece : List Char) :
    lineText (front ++ '/' :: piece) = front ++ '/' :: lineText piece := by
  rw [lineText_append _ (List.cons_ne_nil _ _)]
  cases piece with
  | nil => simp [lineText]
  | cons c piece =>
    rw [← List.singleton_append, lineText_append _ (List.cons_ne_nil _ _)]
    rfl

/-- No ending of an always-link library begins in front of a slash. -/
theorem lo_suffix_of_append_slash {front line : List Char}
    (h : ".lo".toList <:+ front ++ '/' :: line) : ".lo".toList <:+ line := by
  rcases List.suffix_or_suffix_of_suffix h (List.suffix_append _ _) with inside | outside
  · rcases List.suffix_cons_iff.1 inside with whole | rest
    · cases whole
    · exact rest
  · exact absurd (outside.subset (.head _)) (by decide)

/-- A piece of a path with the ending of an always-link library is a segment. -/
theorem isSegment_of_lo_suffix {piece : String} (slash : '/' ∉ piece.toList)
    (ending : ".lo".toList <:+ lineText piece.toList) :
    piece ≠ "" ∧ piece ≠ "." ∧ '/' ∉ piece.toList := by
  refine ⟨?_, ?_, slash⟩ <;>
  · rintro rfl
    revert ending
    decide

/-- A file with the path of an always-link library is named like one. -/
theorem isAlwaysLinkLibrary_filename {file : Artifact}
    (h : isAlwaysLinkLibrary file.execPath = true) : isAlwaysLinkLibrary file.filename = true := by
  obtain ⟨unbroken, ending⟩ := isAlwaysLinkLibrary_iff.1 h
  rw [Artifact.filename, Artifact.path, Path.name]
  by_cases slash : '/' ∈ file.execPath.toList
  · obtain ⟨dir, name, path, last⟩ := Path.exists_eq_append_slash slash
    have text : file.execPath.toList = dir.toList ++ '/' :: name.toList := by
      simp [path]
    rw [text, lineText_append_slash] at unbroken ending
    have ending := lo_suffix_of_append_slash ending
    have own := Path.parse_segments_text ⟨name, isSegment_of_lo_suffix last ending⟩
    rw [path, Path.parse_segments_append_slash, own, List.getLast?_concat]
    have unbroken : '\n' ∉ lineText name.toList :=
      fun broken => unbroken (List.mem_append_right _ (.tail _ broken))
    exact isAlwaysLinkLibrary_iff.2 ⟨unbroken, ending⟩
  · have own := Path.parse_segments_text ⟨file.execPath, isSegment_of_lo_suffix slash ending⟩
    rw [own]
    exact h

end FileType
end LinkSynthesis

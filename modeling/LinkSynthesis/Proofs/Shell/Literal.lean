import LinkSynthesis.Proofs.Shell.Script

/-!
# Commands without quotes

The last command of a script may be written without quotes, its words with one blank between any
two. The shell reads these words back just if each is a text of plain characters
(`getLast?_commands?_iff`). A character adds at most one to what has been read of a command, so a
command that is as long as its text has nothing in it that the shell removes, and no word that was
put together from parts of others.
-/

namespace LinkSynthesis.Shell
open Reading

/-- The word stands for itself where it is not quoted. -/
structure IsLiteral (word : String) : Prop where
  ne_empty : word ≠ ""
  plain : ∀ c ∈ word.toList, isPlain c = true

instance : DecidablePred IsLiteral := fun word =>
  decidable_of_iff (word ≠ "" ∧ word.toList.all isPlain = true)
    ⟨fun h => ⟨h.1, List.all_eq_true.1 h.2⟩, fun h => ⟨h.1, List.all_eq_true.2 h.2⟩⟩

theorem IsLiteral.spells {word : String} (h : IsLiteral word) : Spells word word := fun r =>
  run_between_of_isPlain (by simpa using h.ne_empty) h.plain r

theorem spellsCommand_of_isLiteral {words : List String} (hw : words ≠ [])
    (h : ∀ word ∈ words, IsLiteral word) : SpellsCommand (" ".intercalate words) words :=
  ⟨hw, words, List.forall₂_same.2 fun word hm => (h word hm).spells, rfl⟩

/-! ### How much has been read -/

/-- The length of words with a blank behind each. -/
def wordsLength : List String → Nat
  | [] => 0
  | word :: words => word.length + 1 + wordsLength words

theorem wordsLength_concat (words : List String) (word : String) :
    wordsLength (words ++ [word]) = wordsLength words + (word.length + 1) := by
  induction words with
  | nil => simp [wordsLength]
  | cons first words ih =>
    rw [List.cons_append, wordsLength, wordsLength, ih]
    omega

theorem length_intercalate {words : List String} (hw : words ≠ []) :
    (" ".intercalate words).length + 1 = wordsLength words := by
  induction words with
  | nil => exact absurd rfl hw
  | cons word words ih =>
    cases words with
    | nil => simp [wordsLength]
    | cons next words =>
      have one : " ".length = 1 := rfl
      rw [String.intercalate_cons_cons, String.length_append, String.length_append, one,
        Nat.add_assoc, ih (by simp)]
      rfl

/-- The length of the word so far. -/
def Place.length : Place → Nat
  | .bare word | .apostrophes word | .quotes word => word.length
  | .between | .ampersand => 0

/-- The place is not inside quotes, and the word so far stands for itself. -/
def Place.IsLiteral : Place → Prop
  | .between | .ampersand => True
  | .bare word => Shell.IsLiteral (.ofList word)
  | .apostrophes _ | .quotes _ => False

theorem wordPlace?_cases {word : List Char} {c : Char} {place : Place} (blank : isBlank c = false)
    (ampersand : c ≠ '&') (h : wordPlace? word c = some place) :
    place = .apostrophes word ∨ place = .quotes word ∨
      isPlain c = true ∧ place = .bare (word ++ [c]) := by
  unfold wordPlace? at h
  split at h
  · cases h
    exact .inl rfl
  · split at h
    · cases h
      exact .inr (.inl rfl)
    · split at h
      · cases h
      · cases h
        refine .inr (.inr ⟨?_, rfl⟩)
        simp_all [isPlain]

namespace Reading

variable {r r' : Reading}

/-- The length of what has been read of the last command. -/
def length (r : Reading) : Nat := wordsLength r.words + r.place.length

/-- Nothing was quoted in what has been read of the last command. -/
structure IsLiteral (r : Reading) : Prop where
  words : ∀ word ∈ r.words, Shell.IsLiteral word
  place : r.place.IsLiteral

/-- What one character makes of a reading: it adds nothing to the length, or one and no quotes. -/
def Grows (r r' : Reading) : Prop :=
  r'.length ≤ r.length ∨ r'.length = r.length + 1 ∧ (r.IsLiteral → r'.IsLiteral)

/-- What is removed does not count. -/
theorem grows_of_length_eq {place : Place} (same : place.length = r.place.length) :
    r.Grows { r with place } :=
  .inl (Nat.le_of_eq (by rw [length, length, same]))

/-- The end of a word counts as one. -/
theorem grows_endWord {word : List Char} (hr : r.place = .bare word) {place : Place}
    (empty : place.length = 0) (literal : place.IsLiteral) : r.Grows (r.endWord word place) := by
  refine .inr ⟨?_, fun before => ⟨?_, literal⟩⟩
  · rw [length, length, endWord, wordsLength_concat, String.length_ofList, hr, empty, Place.length]
    omega
  · have last := before.place
    rw [hr] at last
    rw [endWord, List.forall_mem_append, List.forall_mem_singleton]
    exact ⟨before.words, last⟩

/-- A character of a word outside of quotes is plain, or it opens quotes and does not count. -/
theorem grows_wordPlace? {word : List Char} {c : Char} (hr : word.length = r.place.length)
    (plain : r.place.IsLiteral → ∀ d ∈ word, isPlain d = true) (blank : ¬isBlank c = true)
    (ampersand : c ≠ '&')
    (h : (wordPlace? word c).map (fun place => { r with place }) = some r') : r.Grows r' := by
  obtain ⟨place, placed, rfl⟩ := Option.map_eq_some_iff.1 h
  obtain rfl | rfl | ⟨hc, rfl⟩ := wordPlace?_cases (by simpa using blank) ampersand placed
  · exact grows_of_length_eq hr
  · exact grows_of_length_eq hr
  · refine .inr ⟨?_, fun before => ⟨before.words, by simp, ?_⟩⟩
    · rw [length, length, ← hr, Place.length, List.length_append, List.length_singleton,
        Nat.add_assoc]
    · rw [String.toList_ofList, List.forall_mem_append, List.forall_mem_singleton]
      exact ⟨plain before.place, hc⟩

/-- Between quotes a character counts, but it was quoted. -/
theorem grows_quoted {place : Place} (quoted : ¬r.place.IsLiteral)
    (longer : place.length = r.place.length + 1) : r.Grows { r with place } :=
  .inr ⟨by rw [length, length, longer, Nat.add_assoc], fun before => absurd before.place quoted⟩

theorem grows_of_step {c : Char} (h : r.step c = some r') : r.Grows r' := by
  unfold step at h
  cases hr : r.place with
  | between =>
    rw [hr] at h
    dsimp only at h
    split at h
    · cases h
      exact .inl (Nat.le_refl _)
    · next blank =>
      split at h
      · cases h
        exact grows_of_length_eq (by rw [hr]; rfl)
      · next ampersand =>
        exact grows_wordPlace? (by rw [hr]; rfl) (fun _ => List.forall_mem_nil _) blank ampersand h
  | bare word =>
    rw [hr] at h
    dsimp only at h
    split at h
    · cases h
      exact grows_endWord hr rfl trivial
    · next blank =>
      split at h
      · cases h
        exact grows_endWord hr rfl trivial
      · next ampersand =>
        refine grows_wordPlace? (by rw [hr]; rfl) (fun before => ?_) blank ampersand h
        rw [hr] at before
        simpa using before.plain
  | apostrophes word =>
    rw [hr] at h
    dsimp only at h
    split at h
    · cases h
      exact grows_of_length_eq (by rw [hr]; rfl)
    · cases h
      exact grows_quoted (by rw [hr]; exact id) (by rw [hr]; simp [Place.length])
  | quotes word =>
    rw [hr] at h
    dsimp only at h
    split at h
    · cases h
      exact grows_of_length_eq (by rw [hr]; rfl)
    · split at h
      · cases h
      · cases h
        exact grows_quoted (by rw [hr]; exact id) (by rw [hr]; simp [Place.length])
  | ampersand =>
    rw [hr] at h
    dsimp only at h
    split at h
    · -- The command is complete, and nothing of the next one has been read.
      cases h
      exact .inl (Nat.zero_le _)
    · cases h

/-- No text is shorter than what is read of it. -/
theorem length_run_le {text : List Char} (h : r.run text = some r') :
    r'.length ≤ r.length + text.length := by
  induction text generalizing r with
  | nil =>
    cases h
    exact Nat.le_refl _
  | cons c text ih =>
    rw [run_cons] at h
    obtain ⟨next, stepped, ran⟩ := Option.bind_eq_some_iff.1 h
    have rest := ih ran
    rw [List.length_cons]
    rcases grows_of_step stepped with _ | ⟨_, -⟩ <;> omega

/-- If every character counts, none of them is between quotes. -/
theorem isLiteral_run {text : List Char} (h : r.run text = some r')
    (long : r'.length = r.length + text.length) (literal : r.IsLiteral) : r'.IsLiteral := by
  induction text generalizing r with
  | nil =>
    cases h
    exact literal
  | cons c text ih =>
    rw [run_cons] at h
    obtain ⟨next, stepped, ran⟩ := Option.bind_eq_some_iff.1 h
    have rest := length_run_le ran
    rw [List.length_cons] at long
    rcases grows_of_step stepped with short | ⟨longer, keeps⟩
    · omega
    · exact ih ran (by omega) (keeps literal)

end Reading

/-! ### The last command -/

/-- If the words of a text are read behind some commands, they were written without quotes. -/
theorem isLiteral_of_getLast?_eq {link : List String} (hl : link ≠ [])
    {commands : List (List String)}
    (h : ((run ⟨.between, [], commands⟩ (" ".intercalate link).toList).bind finish?).bind
      List.getLast? = some link) : ∀ word ∈ link, IsLiteral word := by
  obtain ⟨all, finished, last⟩ := Option.bind_eq_some_iff.1 h
  obtain ⟨r, ran, finished⟩ := Option.bind_eq_some_iff.1 finished
  have start : Reading.length ⟨.between, [], commands⟩ = 0 := rfl
  have bound := length_run_le ran
  rw [start, Nat.zero_add, String.length_toList] at bound
  have written := length_intercalate hl
  unfold finish? at finished
  cases hr : r.place with
  | between =>
    -- All words have ended, and the text is too short for a blank behind the last.
    rw [hr] at finished
    dsimp only at finished
    split at finished
    · cases finished
      rw [List.getLast?_concat, Option.some.injEq] at last
      rw [Reading.length, last] at bound
      omega
    · split at finished
      · cases finished
        cases last
      · cases finished
  | bare word =>
    rw [hr] at finished
    cases finished
    rw [List.getLast?_concat, Option.some.injEq] at last
    rw [← last, wordsLength_concat, String.length_ofList] at written
    have long : r.length = (" ".intercalate link).length := by
      rw [Reading.length, hr, Place.length, ← last]
      omega
    have literal := isLiteral_run ran (by rw [start, Nat.zero_add, String.length_toList, long])
      ⟨List.forall_mem_nil _, trivial⟩
    have ended := literal.place
    rw [hr] at ended
    rw [← last, List.forall_mem_append, List.forall_mem_singleton]
    exact ⟨literal.words, ended⟩
  | _ =>
    rw [hr] at finished
    cases finished

/-- **A last command that is not quoted** is read back just if each of its words is a text of plain
characters. -/
theorem getLast?_commands?_iff {texts link : List String} {commands : List (List String)}
    (h : List.Forall₂ SpellsCommand texts commands) (hl : link ≠ []) :
    (commands? (" && ".intercalate (texts ++ [" ".intercalate link]))).bind List.getLast? =
      some link ↔ ∀ word ∈ link, IsLiteral word := by
  constructor
  · intro read
    rw [commands?, run_intercalate_concat h _ {} rfl] at read
    exact isLiteral_of_getLast?_eq hl read
  · intro literal
    have spelled := spellsCommand_of_isLiteral hl literal
    rw [commands?_intercalate (List.rel_append h (.cons spelled .nil))]
    simp

end LinkSynthesis.Shell

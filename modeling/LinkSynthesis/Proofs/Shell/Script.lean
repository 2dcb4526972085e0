import Mathlib.Data.List.Forall2
import LinkSynthesis.Shell.Words

/-!
# Scripts that read back

A written word is a text that the machine of `Shell.Words` reads as one word; a written command has
written words with one blank between any two. A chain of written commands reads back as exactly
these commands (`commands?_intercalate`): no word of it ends early, runs into the next one or forges
a separator. Quoted texts are written words, so a chain of joined texts is such a script.
-/

namespace LinkSynthesis.Shell
open Reading

/-- Between words, the text begins a word that it stands for. -/
def Spells (text word : String) : Prop :=
  ∀ r : Reading, run { r with place := .between } text.toList =
    some { r with place := .bare word.toList }

/-- The text is a command of these words, with one blank between any two. -/
def SpellsCommand (text : String) (words : List String) : Prop :=
  words ≠ [] ∧ ∃ texts, List.Forall₂ Spells texts words ∧ text = " ".intercalate texts

theorem spells_quote (text : String) : Spells (quote text) text := by
  intro r
  rw [quote, String.toList_ofList, run_quoteChars]

/-- The text is empty, or begins a word that is `lead` so far. -/
def Leads (text lead : String) : Prop := (text = "" ∧ lead = "") ∨ Spells text lead

theorem leads_of_isSafe {text : String} (h : ∀ c ∈ text.toList, isSafe c = true) :
    Leads text text := by
  by_cases empty : text = ""
  · exact .inl ⟨empty, empty⟩
  · have unquoted : quote text = text := by
      rw [quote, quoteChars, if_neg (by simpa using empty), if_pos (List.all_eq_true.2 h),
        String.ofList_toList]
    have spelled := spells_quote text
    rw [unquoted] at spelled
    exact .inr spelled

/-- A quoted text behind the beginning of a word is one word with it. -/
theorem Leads.spells_append_quote {text lead : String} (h : Leads text lead) (rest : String) :
    Spells (text ++ quote rest) (lead ++ rest) := by
  rcases h with ⟨rfl, rfl⟩ | begun
  · rw [String.empty_append, String.empty_append]
    exact spells_quote rest
  · intro r
    rw [String.toList_append, run_append, begun, Option.bind_some, quote, String.toList_ofList,
      run_quoteChars_bare, String.toList_append]

theorem spellsCommand_join {words : List String} (h : words ≠ []) :
    SpellsCommand (join words) words := by
  refine ⟨h, words.map quote, ?_, rfl⟩
  rw [List.forall₂_map_left_iff, List.forall₂_same]
  exact fun word _ => spells_quote word

/-! ### One command -/

/-- A blank ends a word. -/
theorem run_blank (word : String) (words : List String) (commands : List (List String)) :
    run ⟨.bare word.toList, words, commands⟩ [' '] =
      some ⟨.between, words ++ [word], commands⟩ := by
  simp [run, step, isBlank, endWord]

/-- After the words of a command the machine stands at the end of the last one. -/
theorem exists_run_words {texts words : List String} (h : List.Forall₂ Spells texts words)
    (hw : words ≠ []) (r : Reading) :
    ∃ front last, words = front ++ [last] ∧
      run { r with place := .between } (" ".intercalate texts).toList =
        some { r with place := .bare last.toList, words := r.words ++ front } := by
  -- A word is kept only when the blank behind it is read, so the last one is not kept yet.
  induction h generalizing r with
  | nil => exact absurd rfl hw
  | @cons text word texts words spelled h ih =>
    rcases texts with _ | ⟨text', texts⟩
    · cases h
      refine ⟨[], word, rfl, ?_⟩
      simpa using spelled r
    · have more : words ≠ [] := by rintro rfl; cases h
      obtain ⟨front, last, rfl, ran⟩ := ih more { r with words := r.words ++ [word] }
      refine ⟨word :: front, last, rfl, ?_⟩
      rw [String.intercalate_cons_cons, String.toList_append, String.toList_append, run_append,
        run_append, spelled, Option.bind_some]
      rw [show " ".toList = [' '] from rfl, run_blank, Option.bind_some]
      simpa using ran

/-- A script may end behind a command. -/
theorem finish?_of_spellsCommand {text : String} {words : List String}
    (h : SpellsCommand text words) (r : Reading) (hr : r.words = []) :
    (run { r with place := .between } text.toList).bind finish? =
      some (r.commands ++ [words]) := by
  obtain ⟨hw, texts, spelled, rfl⟩ := h
  obtain ⟨front, last, rfl, ran⟩ := exists_run_words spelled hw r
  rw [ran, Option.bind_some]
  simp [finish?, hr]

/-- The separator behind a command ends the command. -/
theorem run_separator_of_spellsCommand {text : String} {words : List String}
    (h : SpellsCommand text words) (r : Reading) (hr : r.words = []) :
    run { r with place := .between } (text ++ " && ").toList =
      some { place := .between, words := [], commands := r.commands ++ [words] } := by
  obtain ⟨hw, texts, spelled, rfl⟩ := h
  obtain ⟨front, last, rfl, ran⟩ := exists_run_words spelled hw r
  rw [String.toList_append, run_append, ran, Option.bind_some,
    show " && ".toList = [' '] ++ ['&', '&', ' '] from rfl, run_append, run_blank,
    Option.bind_some]
  simp [run, step, isBlank, hr]

/-! ### Chains of commands -/

/-- Behind written commands a script may go on with any text. -/
theorem run_intercalate_concat {texts : List String} {commands : List (List String)}
    (h : List.Forall₂ SpellsCommand texts commands) (text : String) (r : Reading)
    (hr : r.words = []) :
    run { r with place := .between } (" && ".intercalate (texts ++ [text])).toList =
      run ⟨.between, [], r.commands ++ commands⟩ text.toList := by
  induction h generalizing r with
  | nil => rw [List.nil_append, String.intercalate_singleton, List.append_nil, ← hr]
  | @cons first words texts commands spelled h ih =>
    rw [List.cons_append, String.intercalate_cons_of_ne_nil (by simp), String.toList_append,
      run_append, run_separator_of_spellsCommand spelled r hr, Option.bind_some,
      ih ⟨.between, [], r.commands ++ [words]⟩ rfl, List.append_assoc, List.singleton_append]

/-- A chain of written commands reads back as these commands. -/
theorem commands?_intercalate {texts : List String} {commands : List (List String)}
    (h : List.Forall₂ SpellsCommand texts commands) :
    commands? (" && ".intercalate texts) = some commands := by
  rcases List.eq_nil_or_concat commands with rfl | ⟨front, last, rfl⟩
  · cases h
    rfl
  · rw [List.concat_eq_append] at h ⊢
    have before := List.forall₂_take_append texts front [last] h
    obtain ⟨text, rest, spelled, nothing, one⟩ :=
      List.forall₂_cons_right_iff.1 (List.forall₂_drop_append texts front [last] h)
    obtain rfl := List.forall₂_nil_right_iff.1 nothing
    rw [← List.take_append_drop front.length texts, one, commands?,
      run_intercalate_concat before text {} rfl]
    exact finish?_of_spellsCommand spelled ⟨.between, [], [] ++ front⟩ rfl

/-- A written command reads back as its words. -/
theorem words?_of_spellsCommand {text : String} {words : List String}
    (h : SpellsCommand text words) : words? text = some words := by
  have one : commands? (" && ".intercalate [text]) = some [words] :=
    commands?_intercalate (.cons h .nil)
  rw [String.intercalate_singleton] at one
  rw [words?, one]

end LinkSynthesis.Shell

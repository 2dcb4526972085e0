import LinkSynthesis.Shell.Quote

/-!
# Shell commands

The words of a POSIX shell script that is a chain of simple commands. Blanks separate words,
apostrophes and double quotes are removed, and `&&` chains commands. Any other character that means
something to the shell is refused outside of quotes, so the words of a script that is read are what
the commands get: nothing in them is expanded. The script is read one character at a time by a
machine; `run_quoteChars` and `run_quoteChars_bare` say that a quoted text reads back as itself.
-/

namespace LinkSynthesis.Shell

/-- A character between words. -/
def isBlank (c : Char) : Bool := c == ' ' || c == '\t'

/-- The characters that are no part of a word outside of quotes. The quotes themselves, the blanks
and the ampersand have rules of their own. -/
def specialChars : List Char :=
  ['\n', '|', ';', '<', '>', '(', ')', '$', '\x60', '\\', '*', '?', '[', ']', '#', '~', '!', '^',
   '\x7b', '\x7d']

/-- A character that is no part of a word outside of quotes. -/
def isSpecial (c : Char) : Bool := specialChars.contains c

/-- A character that is part of a word outside of quotes, and stands for itself there. -/
def isPlain (c : Char) : Bool :=
  !(isBlank c || c == '&' || c == '\x27' || c == '\x22' || isSpecial c)

/-- A character that is special between double quotes too. -/
def isExpanded (c : Char) : Bool := ['$', '\x60', '\\'].contains c

/-- Inside what the next character stands, with the word so far. -/
inductive Place where
  | between
  | bare (word : List Char)
  | apostrophes (word : List Char)
  | quotes (word : List Char)
  /-- After the first ampersand of two. -/
  | ampersand
deriving DecidableEq

/-- What has been read of a script. -/
structure Reading where
  place : Place := .between
  /-- The words of the command that is being read, without the one in `place`. -/
  words : List String := []
  /-- The commands before it. -/
  commands : List (List String) := []
deriving DecidableEq

/-- The place after a character of a word outside of quotes. -/
def wordPlace? (word : List Char) (c : Char) : Option Place :=
  if c = '\x27' then some (.apostrophes word)
  else if c = '\x22' then some (.quotes word)
  else if isSpecial c then none
  else some (.bare (word ++ [c]))

namespace Reading

/-- Ends a word. -/
def endWord (r : Reading) (word : List Char) (place : Place) : Reading :=
  { r with place, words := r.words ++ [.ofList word] }

/-- Reads one character. -/
def step (r : Reading) (c : Char) : Option Reading :=
  match r.place with
  | .between =>
    if isBlank c then some r
    else if c = '&' then some { r with place := .ampersand }
    else (wordPlace? [] c).map fun place => { r with place }
  | .bare word =>
    if isBlank c then some (r.endWord word .between)
    else if c = '&' then some (r.endWord word .ampersand)
    else (wordPlace? word c).map fun place => { r with place }
  | .apostrophes word =>
    if c = '\x27' then some { r with place := .bare word }
    else some { r with place := .apostrophes (word ++ [c]) }
  | .quotes word =>
    if c = '\x22' then some { r with place := .bare word }
    else if isExpanded c then none
    else some { r with place := .quotes (word ++ [c]) }
  | .ampersand =>
    if c = '&' ∧ r.words ≠ [] then some { commands := r.commands ++ [r.words] } else none

/-- Reads some characters. -/
def run (r : Reading) (text : List Char) : Option Reading := text.foldlM step r

/-- The commands, if the text may end here: not inside quotes, and not after `&&`. -/
def finish? (r : Reading) : Option (List (List String)) :=
  match r.place with
  | .between =>
    if r.words ≠ [] then some (r.commands ++ [r.words])
    else if r.commands = [] then some []
    else none
  | .bare word => some (r.commands ++ [r.words ++ [.ofList word]])
  | _ => none

end Reading

/-- The commands of a script, each as its words. -/
def commands? (script : String) : Option (List (List String)) :=
  (Reading.run {} script.toList).bind Reading.finish?

/-- The words of a script that is at most one command. -/
def words? (script : String) : Option (List String) :=
  match commands? script with
  | some [] => some []
  | some [words] => some words
  | _ => none

/-! ### Quoted texts read back -/

/-- No special character is safe. -/
theorem isSafe_eq_false_of_isSpecial {c : Char} (h : isSpecial c = true) : isSafe c = false := by
  have noneSafe : (specialChars.all fun c => !isSafe c) = true := by decide
  simpa using List.all_eq_true.1 noneSafe c (List.contains_iff_mem.1 h)

/-- Every safe character is plain. -/
theorem isPlain_of_isSafe {c : Char} (h : isSafe c = true) : isPlain c = true := by
  have differs (d : Char) (hd : isSafe d = false) : c ≠ d := by
    rintro rfl
    simp [hd] at h
  have hs : isSpecial c = false :=
    Bool.eq_false_iff.2 fun hc => by simp [isSafe_eq_false_of_isSpecial hc] at h
  simp [isPlain, isBlank, hs, differs ' ' (by decide), differs '\t' (by decide),
    differs '&' (by decide), differs '\x27' (by decide), differs '\x22' (by decide)]

/-- A plain character is part of a word. -/
theorem wordPlace?_of_isPlain {c : Char} (h : isPlain c = true) (word : List Char) :
    isBlank c = false ∧ c ≠ '&' ∧ wordPlace? word c = some (.bare (word ++ [c])) := by
  simp only [isPlain, Bool.not_eq_true', Bool.or_eq_false_iff, beq_eq_false_iff_ne] at h
  obtain ⟨⟨⟨⟨blank, ampersand⟩, apostrophe⟩, quote⟩, special⟩ := h
  exact ⟨blank, ampersand, by simp [wordPlace?, apostrophe, quote, special]⟩

namespace Reading

@[simp] theorem run_nil (r : Reading) : r.run [] = some r := rfl

theorem run_cons (r : Reading) (c : Char) (text : List Char) :
    r.run (c :: text) = (r.step c).bind fun r => r.run text := rfl

theorem run_append (r : Reading) (s t : List Char) :
    r.run (s ++ t) = (r.run s).bind fun r => r.run t := by
  simp [run, List.foldlM_append]

theorem step_of_isPlain {c : Char} (h : isPlain c = true) (r : Reading) (word : List Char) :
    step { r with place := .bare word } c = some { r with place := .bare (word ++ [c]) } := by
  obtain ⟨h₁, h₂, h₃⟩ := wordPlace?_of_isPlain h word
  simp [step, h₁, h₂, h₃]

/-- Inside a word, plain characters add themselves. -/
theorem run_of_isPlain {text : List Char} (h : ∀ c ∈ text, isPlain c = true) (r : Reading)
    (word : List Char) :
    run { r with place := .bare word } text = some { r with place := .bare (word ++ text) } := by
  induction text generalizing word with
  | nil => simp
  | cons c text ih =>
    rw [run_cons, step_of_isPlain (h c (.head _)), Option.bind_some,
      ih fun d hd => h d (.tail _ hd)]
    simp

/-- Between words, plain characters begin a word. -/
theorem run_between_of_isPlain {text : List Char} (ne : text ≠ [])
    (h : ∀ c ∈ text, isPlain c = true) (r : Reading) :
    run { r with place := .between } text = some { r with place := .bare text } := by
  cases text with
  | nil => exact absurd rfl ne
  | cons c text =>
    obtain ⟨h₁, h₂, h₃⟩ := wordPlace?_of_isPlain (h c (.head _)) []
    have started : step { r with place := .between } c = some { r with place := .bare [c] } := by
      simp [step, h₁, h₂, h₃]
    rw [run_cons, started, Option.bind_some, run_of_isPlain fun d hd => h d (.tail _ hd)]
    rfl

/-- Between apostrophes every character stands for itself, and a quoted apostrophe for one. -/
theorem run_quoteChar (c : Char) (r : Reading) (word : List Char) :
    run { r with place := .apostrophes word } (quoteChar c) =
      some { r with place := .apostrophes (word ++ [c]) } := by
  by_cases h : c = '\x27'
  · subst h
    simp [quoteChar, run, step, wordPlace?, isBlank, isExpanded]
  · simp [quoteChar, run, step, h]

theorem run_flatMap_quoteChar (text : List Char) (r : Reading) (word : List Char) :
    run { r with place := .apostrophes word } (text.flatMap quoteChar) =
      some { r with place := .apostrophes (word ++ text) } := by
  induction text generalizing word with
  | nil => simp
  | cons c text ih => rw [List.flatMap_cons, run_append, run_quoteChar, Option.bind_some, ih]; simp

/-- Inside a word, a quoted text adds itself. -/
theorem run_quoteChars_bare (text : List Char) (r : Reading) (word : List Char) :
    run { r with place := .bare word } (quoteChars text) =
      some { r with place := .bare (word ++ text) } := by
  unfold quoteChars
  split
  · next h =>
    rw [List.isEmpty_iff.1 h]
    simp [run, step, wordPlace?, isBlank]
  · split
    · next h =>
      exact run_of_isPlain (fun c hc => isPlain_of_isSafe (List.all_eq_true.1 h c hc)) r word
    · have opened : step { r with place := .bare word } '\x27' =
          some { r with place := .apostrophes word } := by
        simp [step, wordPlace?, isBlank]
      rw [run_cons, opened, Option.bind_some, run_append, run_flatMap_quoteChar, Option.bind_some]
      simp [run, step]

/-- Between words, a quoted text begins a word that is that text. -/
theorem run_quoteChars (text : List Char) (r : Reading) :
    run { r with place := .between } (quoteChars text) = some { r with place := .bare text } := by
  unfold quoteChars
  split
  · next h =>
    rw [List.isEmpty_iff.1 h]
    simp [run, step, wordPlace?, isBlank]
  · next hne =>
    split
    · next h =>
      exact run_between_of_isPlain (by simpa using hne)
        (fun c hc => isPlain_of_isSafe (List.all_eq_true.1 h c hc)) r
    · have opened : step { r with place := .between } '\x27' =
          some { r with place := .apostrophes [] } := by
        simp [step, wordPlace?, isBlank]
      rw [run_cons, opened, Option.bind_some, run_append, run_flatMap_quoteChar, Option.bind_some]
      simp [run, step]

end Reading
end LinkSynthesis.Shell

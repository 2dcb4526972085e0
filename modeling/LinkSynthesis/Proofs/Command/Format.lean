import LinkSynthesis.Command.Format
import LinkSynthesis.Proofs.Json.Strings
import LinkSynthesis.Proofs.Shell.Script

/-!
# Printed commands read back

A command that is printed as JSON or as a shell command reads back as the words that it was printed
from, whatever characters they hold, so two commands that are printed alike are the same
(`readBack_render`). Line by line a command does not read back: a line break in a word is not told
from the one behind it.
-/

namespace LinkSynthesis

/-- Joined texts read back as these texts, also if there are none. -/
theorem Shell.words?_join (texts : List String) : words? (join texts) = some texts := by
  by_cases none : texts = []
  · rw [none]
    rfl
  · exact words?_of_spellsCommand (spellsCommand_join none)

namespace CommandFormat

/-- **Printed commands read back.** As JSON, a command is the array of its words, in printable
ASCII; as a shell command, it is one command of these words. So no two commands are printed alike in
either format. -/
theorem readBack_render :
    (∀ words, Json.parse (json.render words) = some (.arr (words.map .str)) ∧
      ∀ c ∈ (json.render words).toList, Json.IsPrinted c) ∧
    (∀ words, Shell.words? (shell.render words) = some words) ∧
    Function.Injective json.render ∧ Function.Injective shell.render := by
  have asJson (words : List String) :
      Json.parse (json.render words) = some (.arr (words.map .str)) :=
    Json.parse_encodeStrings words
  have asShell (words : List String) : Shell.words? (shell.render words) = some words :=
    Shell.words?_join words
  refine ⟨fun words => ⟨asJson words, Json.isPrinted_encodeStrings words⟩, asShell, ?_, ?_⟩
  · intro words others same
    have values : words.map Json.Value.str = others.map .str := by
      simpa using (asJson words).symm.trans ((congrArg Json.parse same).trans (asJson others))
    exact (List.map_injective_iff.2 fun _ _ => Json.Value.str.inj) values
  · intro words others same
    exact Option.some.inj
      ((asShell words).symm.trans ((congrArg Shell.words? same).trans (asShell others)))

example : lines.render ["a\nb"] = lines.render ["a", "b"] := rfl

end CommandFormat
end LinkSynthesis

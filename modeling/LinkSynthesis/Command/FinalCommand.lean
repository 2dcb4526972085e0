import LinkSynthesis.Command.RawCommand
import LinkSynthesis.Command.Stamps

/-!
# Final commands

The linkstamp objects must exist before the link reads them, and the whole must be one action, so
the compiles and the link are chained by `&&` in one shell script.
-/

namespace LinkSynthesis

/-- Puts shell commands in front of a link command. The words of the link are quoted, unless they
are shell text already. Without commands the link stands alone. -/
def compose (commands arguments : List String) (quoteArguments : Bool)
    (shell : String := "/bin/bash") : List String :=
  if commands.isEmpty then arguments
  else
    let link := if quoteArguments then Shell.join arguments else " ".intercalate arguments
    [shell, "-c", " && ".intercalate (commands ++ [link])]

namespace Action

/-- The final command for link arguments. -/
def finalCommand (a : Action) (arguments : List String) : Except AssemblyError (List String) := do
  return compose (← a.stampCommands "") arguments true a.toolchain.shExecutable

/-- The final command for link arguments that are shell text already, with a text in front of each
linkstamp object path. -/
def finalCommandOfQuoted (a : Action) (arguments : List String) (objectPrefix : String) :
    Except AssemblyError (List String) := do
  return compose (← a.stampCommands objectPrefix) arguments false a.toolchain.shExecutable

/-- The whole command of the action. -/
def arguments (a : Action) : Except AssemblyError (List String) := do
  a.finalCommand (← a.rawCommand)

end Action
end LinkSynthesis

/-
From a line to a command, with the aliases of one game.
-/
import Adventure.Command
import Adventure.Notice
import Adventure.Token.Scan

namespace Adventure

/-- Reads lines with the aliases of one game. -/
structure Interpreter where
  overlay : Overlay := .empty

namespace Interpreter

/-- The words it knows. -/
def vocabulary (i : Interpreter) : Vocabulary :=
  .extended i.overlay

/-- The tokens of a line. -/
def tokens (i : Interpreter) (input : String) : List Token :=
  scan i.vocabulary input

/-- The meaning of a line. -/
def compile (i : Interpreter) (input : String) : Node :=
  .ofTokens input (i.tokens input)

/-- What is reported when a line has been given a meaning. -/
def compileNotice (i : Interpreter) (input : String) : Notice :=
  match i.compile input with
  | .verb action phrase => .compiled action phrase.target
  | .error e => .rejected e.message e.column
  | .unknown => .unrecognized input

/-- The command of a line. -/
def interpret (i : Interpreter) (input : String) : Command :=
  .ofNode (some (i.compile input))

/-- Replaces the aliases. -/
def install (_ : Interpreter) (o : Overlay) : Interpreter × List Notice :=
  (⟨o⟩, [.overlayInstalled o.size])

end Interpreter

end Adventure

/-
A session: the aliases it was started with, the synonyms that help shows, and how it
answers.

A session renders each line by itself.  Its settings say whether the row of tokens goes
before the answer and whether the answer is text or JSON; nothing else of it ever changes.
-/
import Adventure.Command.Json
import Adventure.Interpreter
import Adventure.Synonyms

namespace Adventure

/-- How commands are written. -/
inductive Format where
  | text
  | json
  deriving DecidableEq, Repr

namespace Format

/-- The other way. -/
def toggle : Format → Format
  | text => json
  | json => text

end Format

/-- How a session answers. -/
structure Settings where
  /-- What is shown where a line is expected. -/
  prompt : String := "> "
  /-- Whether it starts with a welcome. -/
  showBanner : Bool := true
  /-- Whether the tokens of a line are shown. -/
  showTokens : Bool := false
  /-- How commands are written. -/
  format : Format := .text
  deriving DecidableEq, Repr

/-- A session. -/
structure Session where
  interpreter : Interpreter := {}
  synonyms : Synonyms := .builtin
  settings : Settings := {}

namespace Session

/-- A session with the aliases of a game. -/
def ofOverlay (settings : Settings) (o : Overlay) : Session where
  interpreter := ⟨o⟩
  synonyms := Synonyms.builtin.extend o
  settings := settings

/-- What is reported when a session starts. -/
def startNotices (o : Overlay) : List Notice :=
  (if o.isEmpty then [] else [.vocabularyExtended o.size]) ++ [.overlayInstalled o.size]

/-- The command of a line. -/
def parse (s : Session) (line : String) : Command :=
  s.interpreter.interpret line

/-- The row of tokens before an answer, if it is shown. -/
def tokenRow (s : Session) (line : String) : String :=
  if s.settings.showTokens then Token.describeAll (s.interpreter.tokens line) ++ "\n" else ""

/-- A command as text: an error shows its line, a caret and the complaint. -/
def commandText (c : Command) : String :=
  match c.error with
  | some e => e.input ++ "\n" ++ e.caret ++ "\n" ++ e.message
  | none => if c.isUnknown then "I don't understand that." else c.describe

/-- The answer to a line, for a given command. -/
def renderCommand (s : Session) (line : String) (c : Command) : String :=
  s.tokenRow line ++
    match s.settings.format with
    | .json => c.render
    | .text => commandText c

/-- The answer to a line. -/
def render (s : Session) (line : String) : String :=
  s.renderCommand line (s.parse line)

/-! ### Help -/

/-- A word filled up with spaces to ten characters. -/
def padded (word : String) : String :=
  word ++ String.ofList (List.replicate (10 - word.length) ' ')

/-- The help line of a verb with synonyms. -/
def verbLine (s : Session) (verb : String) : Option String :=
  (s.synonyms.alsoAccepts? verb).map fun accepts => "  " ++ padded verb ++ " " ++ accepts ++ "\n"

/-- The words of a direction, in lower case with slashes between them. -/
def directionGroup (s : Session) (d : Direction) : String :=
  Text.lower ("/".intercalate (s.interpreter.vocabulary.wordsWith (.direction d)))

/-- The words of all directions that have any. -/
def directionGroups (s : Session) : List String :=
  (Direction.all.map s.directionGroup).filter fun group => !group.isEmpty

/-- Help: a line for each verb with synonyms, and one for the directions. -/
def helpText (s : Session) : String :=
  String.join (s.synonyms.canonicals.filterMap s.verbLine) ++
    "  " ++ padded "directions" ++ " " ++ ", ".intercalate s.directionGroups ++ "\n"

/-- The aliases, one on a line. -/
def aliasListing (s : Session) : String :=
  if s.interpreter.overlay.isEmpty then "  (no aliases loaded)\n"
  else
    String.join (s.interpreter.overlay.toList.map fun entry =>
      "  " ++ entry.1 ++ " -> " ++ entry.2.name ++ "\n")

end Session

end Adventure

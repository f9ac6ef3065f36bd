/-
Talking to a session: one line and its answer, and a whole conversation.

A line that starts with a colon is about the session itself.  Such meta commands can
change two settings, turn them and turn them back; they are all that a line can change.  A
conversation reads lines from a script and ends with the end of the script, with a line
that quits, or with a reading that fails.
-/
import Adventure.Failure
import Adventure.Session
import Adventure.Text.Backspace
import Adventure.Text.Lines

namespace Adventure

/-- The answer to a line, and whether the conversation goes on. -/
inductive Reply where
  | goOn (text : String)
  | quit (text : String)
  deriving DecidableEq, Repr

namespace Reply

/-- The text of an answer. -/
def text : Reply → String
  | goOn text => text
  | quit text => text

end Reply

namespace Session

/-- The meta commands that are listed. -/
def metaCommands : List String :=
  [":help", ":aliases", ":tokens", ":json", ":quit"]

/-- A setting in words. -/
def onOff (flag : Bool) : String :=
  if flag then "on" else "off"

/-- Turns the row of tokens on or off. -/
def toggleTokens (s : Session) : Session :=
  { s with settings := { s.settings with showTokens := !s.settings.showTokens } }

/-- Turns JSON on or off. -/
def toggleJson (s : Session) : Session :=
  { s with settings := { s.settings with format := s.settings.format.toggle } }

/-- The answer to a meta command, given without blanks around it. -/
def evalMeta (s : Session) (command : String) : Reply × Session :=
  if command = ":help" ∨ command = ":h" then
    (.goOn ("Meta commands: " ++ " ".intercalate metaCommands ++ "\nVerbs:\n" ++
      Text.trimEnd s.helpText), s)
  else if command = ":aliases" then (.goOn (Text.trimEnd s.aliasListing), s)
  else if command = ":tokens" then
    let s := s.toggleTokens
    (.goOn ("token display " ++ onOff s.settings.showTokens), s)
  else if command = ":json" then
    let s := s.toggleJson
    (.goOn ("json output " ++ onOff (s.settings.format == .json)), s)
  else if command = ":quit" ∨ command = ":q" then (.quit "", s)
  else (.goOn ("Unknown meta command " ++ command ++ "; try :help"), s)

/-- Whether a line is about the session itself. -/
def isMeta (line : String) : Bool :=
  (Text.trim line).toList.head? == some ':'

/-- The answer to a line, and the session after it. -/
def eval (s : Session) (line : String) : Reply × Session :=
  if isMeta line then s.evalMeta (Text.trim line)
  else
    let command := s.parse line
    let text := s.renderCommand line command
    (if command.action = .perform .quit then .quit text else .goOn text, s)

/-- What is reported when a line is answered. -/
def evalNotices (s : Session) (line : String) : List Notice :=
  if isMeta line then [.metaCommand (Text.trim line)] else [s.interpreter.compileNotice line]

/-- The answers to lines, one after the other, each with the session after it; a line that
quits does not stop them. -/
def evalAll (s : Session) : List String → List (Reply × Session)
  | [] => []
  | line :: rest =>
    let (reply, s') := s.eval line
    (reply, s') :: s'.evalAll rest

end Session

/-! ### Conversations -/

/-- What reading a line gives. -/
inductive Input where
  | line (text : String)
  | interrupt
  | eof
  | failure (f : Failure)
  deriving DecidableEq, Repr

namespace Input

/-- A reading that fails for a reason given in words. -/
def fail (message : String) : Input :=
  .failure ⟨.internal message, none⟩

/-- The lines of a stream as inputs, with backspaces carried out; a line that is not text
is a failure. -/
def ofBytes (bytes : List UInt8) : List Input :=
  (Text.byteLines bytes).map fun bytes =>
    match Text.decode? bytes with
    | some text => .line (Text.applyBackspaces text)
    | none => .fail Failure.notText

end Input

/-- All that a conversation shows. -/
structure Transcript where
  /-- Whether a reading failed. -/
  result : Except Failure Unit := .ok ()
  /-- The lines that are remembered. -/
  history : List String := []
  /-- What was shown where a line was expected, once for each reading. -/
  prompts : List String := []
  /-- What was printed. -/
  output : String := ""

namespace Transcript

/-- A transcript with one more reading before it. -/
def prompted (prompt : String) (t : Transcript) : Transcript :=
  { t with prompts := prompt :: t.prompts }

/-- A transcript with a line and what it printed before it. -/
def heard (line printed : String) (t : Transcript) : Transcript :=
  { t with history := line :: t.history, output := printed ++ t.output }

/-- The end of a conversation that did not fail. -/
def farewell : Transcript :=
  { output := "\nGoodbye!\n" }

end Transcript

namespace Session

/-- The welcome. -/
def banner : String :=
  "\x1b[1;36mWaymark\x1b[0m command parser v0.1.0\n" ++
    "Type a command to see how it parses. :help lists meta commands, Ctrl+D exits.\n\n"

/-- The conversation that a script of inputs leads to; behind the script is the end. -/
def converse (s : Session) : List Input → Transcript
  | [] | .eof :: _ => .prompted s.settings.prompt .farewell
  | .interrupt :: rest => .prompted s.settings.prompt (s.converse rest)
  | .failure f :: _ => .prompted s.settings.prompt { result := .error f }
  | .line line :: rest =>
    .prompted s.settings.prompt <|
      if Text.isBlankText line then s.converse rest
      else
        match s.eval line with
        | (.goOn text, s') => .heard line (text ++ "\n") (s'.converse rest)
        | (.quit text, _) =>
          .heard line (if text.isEmpty then "" else text ++ "\n") .farewell

/-- A conversation with its welcome, if there is one. -/
def run (s : Session) (script : List Input) : Transcript :=
  let t := s.converse script
  if s.settings.showBanner then { t with output := banner ++ t.output } else t

end Session

end Adventure

/-
Colours for a line as it is typed.

Quoted texts, directions and connecting words have a colour wherever they stand; a verb
has one only in front.  Colouring copies the line and puts escape sequences around tokens,
and changes nothing else.
-/
import Adventure.Token.Scan

namespace Adventure.Terminal

/-- A colour. -/
inductive Colour where
  | yellow
  | cyan
  | blue
  | boldGreen
  deriving DecidableEq, Repr

namespace Colour

/-- The escape sequence that turns a colour on. -/
def code : Colour → String
  | yellow => "\x1b[33m"
  | cyan => "\x1b[36m"
  | blue => "\x1b[34m"
  | boldGreen => "\x1b[1;32m"

/-- The escape sequence that turns colours off. -/
def reset : String :=
  "\x1b[0m"

/-- A text in a colour, if there is one. -/
def paint (colour : Option Colour) (text : String) : String :=
  match colour with
  | some colour => colour.code ++ text ++ reset
  | none => text

end Colour

/-- The colour of a token; `leading` says that it is the first of the line. -/
def colourOf (kind : Kind) (leading : Bool) : Option Colour :=
  match kind with
  | .string => some .yellow
  | .direction _ => some .cyan
  | .preposition _ | .to_ | .away => some .blue
  | .verb _ => if leading then some .boldGreen else none
  | .identifier | .eol => none

/-- The text of a line between two places. -/
def stretch (line : String) (start stop : Nat) : String :=
  (⟨start, stop, 0, 0⟩ : Span).text line

/-- The rest of a line from a place on, with its tokens in colour. -/
def paintTokens (line : String) : Nat → Bool → List Token → String
  | cursor, _, [] => stretch line cursor line.utf8ByteSize
  | cursor, leading, token :: rest =>
    if token.isEol then stretch line cursor line.utf8ByteSize
    else
      stretch line cursor token.span.start ++
        Colour.paint (colourOf token.kind leading) (token.span.text line) ++
        paintTokens line token.span.stop false rest

/-- A line in colours. -/
def highlight (v : Vocabulary) (line : String) : String :=
  paintTokens line 0 true (scan v line)

/-- A prompt in colour, if it is the usual one. -/
def paintPrompt (prompt : String) (usual : Bool) : String :=
  Colour.paint (if usual then some .boldGreen else none) prompt

/-- A hint, dimmed. -/
def paintHint (hint : String) : String :=
  "\x1b[2m" ++ hint ++ Colour.reset

end Adventure.Terminal

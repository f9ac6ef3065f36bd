/-
Tokens of a typed line.

A token is a kind, the spelling it was given, and where it stands.  The spelling of a
quoted text leaves the quotes out; the spelling of the end marker is empty.
-/
import Adventure.Kind
import Adventure.Span

namespace Adventure

/-- One token. -/
structure Token where
  kind : Kind
  lexeme : String
  span : Span
  deriving DecidableEq, Repr

namespace Token

/-- The end marker at a place. -/
def endAt (p : Position) : Token :=
  ⟨.eol, "", .point p⟩

/-- The column where the token starts. -/
def column (t : Token) : Nat :=
  t.span.column

/-- Whether the token is an end marker. -/
def isEol (t : Token) : Bool :=
  t.kind == .eol

/-- A token in a row of tokens: kind, spelling and column; the end marker has no
spelling. -/
def describe (t : Token) : String :=
  if t.isEol then s!"{t.kind.name}@{t.column}"
  else s!"{t.kind.name}({t.lexeme})@{t.column}"

/-- A row of tokens. -/
def describeAll (tokens : List Token) : String :=
  " ".intercalate (tokens.map describe)

/-- The spellings of tokens with one space between neighbours. -/
def join (tokens : List Token) : String :=
  " ".intercalate (tokens.map lexeme)

end Token

end Adventure

/-
Places in a typed line.

A position counts bytes from the start of the text, lines from one, and characters from
the last line feed; a span is a position and the byte offset where it ends.  Lines are
counted in a word of 32 bits, so behind the last number of a word they go on from nought.
Spans point into a text they do not hold, so the text they cover is looked up in a text
given beside them and is empty where that text has no such place.
-/
import Adventure.Text.Bytes

namespace Adventure

/-- A word of 32 bits stands for a number. -/
scoped instance coeNat : Coe UInt32 Nat := ⟨UInt32.toNat⟩

/-- What a word of 32 bits keeps of a number. -/
scoped instance coeUInt32 : Coe Nat UInt32 := ⟨UInt32.ofNat⟩

/-- A place in a text. -/
structure Position where
  offset : Nat := 0
  line : UInt32 := 1
  column : Nat := 0
  deriving DecidableEq, Repr

namespace Position

/-- The place after one more character: a line feed starts a line. -/
def next (p : Position) (c : Char) : Position :=
  if c = '\n' then ⟨p.offset + c.utf8Size, p.line + 1, 0⟩
  else ⟨p.offset + c.utf8Size, p.line, p.column + 1⟩

/-- The place after some more characters. -/
def after (p : Position) (cs : List Char) : Position :=
  cs.foldl next p

end Position

/-- A stretch of text: bytes from `start` up to `stop`, and the line and column of its
start. -/
structure Span where
  start : Nat := 0
  stop : Nat := 0
  line : UInt32 := 0
  column : Nat := 0
  deriving DecidableEq, Repr

namespace Span

/-- The stretch from one place to another. -/
def between (p q : Position) : Span :=
  ⟨p.offset, q.offset, p.line, p.column⟩

/-- The empty stretch at a place. -/
def point (p : Position) : Span :=
  between p p

/-- Length in bytes. -/
def length (s : Span) : Nat :=
  s.stop - s.start

/-- Whether the stretch covers nothing. -/
def isEmpty (s : Span) : Bool :=
  s.start == s.stop

/-- The text that a span covers, empty where the source has no such stretch. -/
def text (s : Span) (source : String) : String :=
  match Text.slice? s.start s.stop source.toList with
  | some cs => String.ofList cs
  | none => ""

end Span

end Adventure

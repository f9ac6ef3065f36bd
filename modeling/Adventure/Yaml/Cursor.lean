/-
A place in YAML text, and the classes of characters that YAML tells apart.

A cursor is the text not yet read with its mark: how many bytes, lines and columns came
before it.  Line breaks are carriage return, line feed, both together, next line,
and the line and paragraph separators.
-/
import Adventure.Text.Bytes

namespace Adventure.Yaml

/-- A place in the text. -/
structure Mark where
  /-- The number of bytes before it. -/
  index : Nat := 0
  line : Nat := 0
  column : Nat := 0
  deriving DecidableEq, Repr

/-! ### Classes of characters -/

/-- A character that ends a line. -/
def isBreak (c : Char) : Bool :=
  c == '\n' || c == '\r' || c == '\u0085' || c == '\u2028' || c == '\u2029'

/-- A space or a tab. -/
def isBlank (c : Char) : Bool :=
  c == ' ' || c == '\t'

/-- A space, a tab, a line break, or the end of the text. -/
def isBlankOrEnd : Option Char → Bool
  | none => true
  | some c => isBlank c || isBreak c

/-- A line break or the end of the text. -/
def isBreakOrEnd : Option Char → Bool
  | none => true
  | some c => isBreak c

/-- A character of names: an ASCII letter or digit, an underscore or a hyphen. -/
def isNameChar (c : Char) : Bool :=
  c.isAlphanum || c == '_' || c == '-'

/-- A character that YAML text may hold. -/
def isAllowed (c : Char) : Bool :=
  let n := c.toNat
  n == 0x09 || n == 0x0A || n == 0x0D || (0x20 ≤ n && n ≤ 0x7E) || n == 0x85
    || (0xA0 ≤ n && n ≤ 0xD7FF) || (0xE000 ≤ n && n ≤ 0xFFFD) || 0x10000 ≤ n

/-! ### Cursors -/

/-- The text not yet read, and its place. -/
structure Cursor where
  mark : Mark := {}
  rest : List Char

namespace Cursor

/-- The next character. -/
def peek (c : Cursor) : Option Char :=
  c.rest.head?

/-- The character so many places on. -/
def peekAt (c : Cursor) (n : Nat) : Option Char :=
  c.rest[n]?

/-- Whether the next character is the given one. -/
def at? (c : Cursor) (char : Char) : Bool :=
  c.peek == some char

/-- Whether the text has ended. -/
def atEnd (c : Cursor) : Bool :=
  c.rest.isEmpty

/-- The number of characters left. -/
def left (c : Cursor) : Nat :=
  c.rest.length

/-- The column of the next character. -/
def column (c : Cursor) : Nat :=
  c.mark.column

/-- Passes over characters of one line. -/
def skip (c : Cursor) (n : Nat) : Cursor :=
  let taken := c.rest.take n
  { mark :=
      { c.mark with
        index := c.mark.index + Text.byteLength taken
        column := c.mark.column + taken.length }
    rest := c.rest.drop n }

/-- Takes characters of one line as long as they are of a class. -/
def takeWhile (c : Cursor) (p : Char → Bool) : List Char × Cursor :=
  let taken := c.rest.takeWhile p
  (taken, c.skip taken.length)

/-- Passes over characters of one line as long as they are of a class. -/
def skipWhile (c : Cursor) (p : Char → Bool) : Cursor :=
  (c.takeWhile p).2

/-- Passes over everything up to the end of the line. -/
def skipToBreak (c : Cursor) : Cursor :=
  c.skipWhile fun char => !isBreak char

/-- Takes a line break; all but the two separators read as line feeds.  Away from a break
nothing is taken. -/
def takeBreak (c : Cursor) : List Char × Cursor :=
  match c.rest with
  | '\r' :: '\n' :: rest => (['\n'], ⟨⟨c.mark.index + 2, c.mark.line + 1, 0⟩, rest⟩)
  | char :: rest =>
    if isBreak char then
      let text := if char == '\u2028' || char == '\u2029' then char else '\n'
      ([text], ⟨⟨c.mark.index + char.utf8Size, c.mark.line + 1, 0⟩, rest⟩)
    else ([], c)
  | [] => ([], c)

/-- Whether three of a character start the line and are followed by a blank or the end. -/
def atMarker (c : Cursor) (char : Char) : Bool :=
  c.column == 0 && c.peek == some char && c.peekAt 1 == some char && c.peekAt 2 == some char
    && isBlankOrEnd (c.peekAt 3)

/-- Whether a marker of a document starts here. -/
def atDocumentMarker (c : Cursor) : Bool :=
  c.atMarker '-' || c.atMarker '.'

end Cursor

end Adventure.Yaml

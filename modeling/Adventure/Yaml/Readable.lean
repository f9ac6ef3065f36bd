/-
How far a text can be read.

Text is taken in pieces: as many whole characters as fit into 16384 bytes, again and
again.  A piece that holds a character which no YAML text may hold cannot be read at all.
So what can be read of a text is the pieces before the first such one, and whoever stays
within them never learns what comes behind.
-/
import Adventure.Yaml.Cursor

namespace Adventure.Yaml

/-- The greatest size of a piece in bytes. -/
def pieceSize : Nat := 16384

/-- What can be read of a text, and whether that is all of it. -/
structure Readable where
  text : List Char
  whole : Bool

namespace Readable

/-- What can be read of a text, of which the characters of a piece, the last first, have
been taken, and so many bytes have room in that piece. -/
def ofPiece (room : Nat) (piece : List Char) : List Char → Readable
  | [] => ⟨piece.reverse, true⟩
  | c :: rest =>
    if c.utf8Size ≤ room then
      if isAllowed c then ofPiece (room - c.utf8Size) (c :: piece) rest else ⟨[], false⟩
    else if isAllowed c then
      let next := ofPiece (pieceSize - c.utf8Size) [c] rest
      ⟨piece.reverse ++ next.text, next.whole⟩
    else ⟨piece.reverse, false⟩

/-- What can be read of a text. -/
def ofText (cs : List Char) : Readable :=
  ofPiece pieceSize [] cs

end Readable

end Adventure.Yaml

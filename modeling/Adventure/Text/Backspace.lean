/-
Backspaces in a line that does not come from a terminal.

Each backspace takes back the grapheme cluster before it, as a key press would have done,
and is itself not part of the line.  With nothing left to take back it does nothing.  How
much to take back is remembered as a number of bytes, of which eight bits are kept.
-/
import Adventure.Text.Bytes
import Adventure.Text.Grapheme

namespace Adventure.Text

/-- A line being typed. -/
structure Typed where
  /-- What stands there. -/
  text : List Char := []
  /-- How many bytes the next backspaces take back, the next first. -/
  sizes : List Nat := []

namespace Typed

/-- The size of a cluster as it is remembered. -/
def sizeOf (cluster : List Char) : Nat :=
  byteLength cluster % 256

/-- Takes so many bytes off the end of a text, if it can be cut there. -/
def cutBack (text : List Char) (size : Nat) : List Char :=
  match splitAtByte? (byteLength text - size) text with
  | some (front, _) => front
  | none => text

/-- The line after one more cluster, which may be a backspace. -/
def press (t : Typed) (cluster : List Char) : Typed :=
  if cluster = ['\x08'] then
    match t.sizes with
    | [] => t
    | size :: sizes => ⟨cutBack t.text size, sizes⟩
  else ⟨t.text ++ cluster, sizeOf cluster :: t.sizes⟩

end Typed

/-- A line with its backspaces carried out. -/
def applyBackspaces (line : String) : String :=
  String.ofList ((graphemes line.toList).foldl Typed.press {}).text

end Adventure.Text

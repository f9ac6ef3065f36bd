/-
Lines of a stream of bytes.

A line ends at a line feed, and a carriage return right before that line feed belongs to
the end too.  Bytes after the last line feed are a line as well, kept as they are.  A line
is text only if its bytes are valid UTF-8, so streams are cut before they are decoded.
-/

namespace Adventure.Text

/-- The line whose bytes before the line feed are given, the last first. -/
def endedLine : List UInt8 → List UInt8
  | 13 :: bytes => bytes.reverse
  | bytes => bytes.reverse

/-- The lines of a stream, of which some bytes of the first line, the last first, have been
read. -/
def linesFrom (current : List UInt8) : List UInt8 → List (List UInt8)
  | [] => if current.isEmpty then [] else [current.reverse]
  | byte :: rest =>
    if byte = 10 then endedLine current :: linesFrom [] rest
    else linesFrom (byte :: current) rest

/-- The lines of a stream, without their ends. -/
def byteLines (bytes : List UInt8) : List (List UInt8) :=
  linesFrom [] bytes

/-- The text of bytes, if they are valid UTF-8. -/
def decode? (bytes : List UInt8) : Option String :=
  String.fromUTF8? ⟨bytes.toArray⟩

/-- The bytes of a text. -/
def encode (s : String) : List UInt8 :=
  s.toUTF8.data.toList

end Adventure.Text

/-
Blank characters, and cutting them off the ends of a text.

Blank is the Unicode property `White_Space`: besides the ASCII blanks it holds the
no-break space, the ideographic space and the line and paragraph separators, and it
does not hold the zero-width space.
-/
import Adventure.Text.Ranges

namespace Adventure.Text

/-- Code points with the property `White_Space`. -/
def blankRanges : List (Nat × Nat) :=
  [(0x09, 0x0D), (0x20, 0x20), (0x85, 0x85), (0xA0, 0xA0), (0x1680, 0x1680), (0x2000, 0x200A),
   (0x2028, 0x2029), (0x202F, 0x202F), (0x205F, 0x205F), (0x3000, 0x3000)]

/-- White space of any script. -/
def isBlank (c : Char) : Bool :=
  inRanges blankRanges c

/-- A text without a visible character; the empty text is blank. -/
def isBlankText (s : String) : Bool :=
  s.toList.all isBlank

/-- The characters left when blanks are cut off the front. -/
def trimStartChars (cs : List Char) : List Char :=
  cs.dropWhile isBlank

/-- The characters left when blanks are cut off the back. -/
def trimEndChars (cs : List Char) : List Char :=
  (cs.reverse.dropWhile isBlank).reverse

/-- Cuts blanks off the back of a text. -/
def trimEnd (s : String) : String :=
  String.ofList (trimEndChars s.toList)

/-- Cuts blanks off both ends of a text. -/
def trim (s : String) : String :=
  String.ofList (trimEndChars (trimStartChars s.toList))

end Adventure.Text

/-
Places in a text counted in bytes of its UTF-8 form.

Spans name places by byte offset.  A cut at an offset exists only where a character
starts or the text ends; `splitAtByte?` makes the cut or says that there is none, and
`slice?` is two cuts.
-/

namespace Adventure.Text

/-- The length of characters in bytes. -/
def byteLength : List Char → Nat
  | [] => 0
  | c :: cs => c.utf8Size + byteLength cs

/-- Cuts characters at a byte offset, unless it is past the end or inside a character. -/
def splitAtByte? : Nat → List Char → Option (List Char × List Char)
  | 0, cs => some ([], cs)
  | _ + 1, [] => none
  | n + 1, c :: cs =>
    if c.utf8Size ≤ n + 1 then
      (splitAtByte? (n + 1 - c.utf8Size) cs).map fun (front, back) => (c :: front, back)
    else none

/-- The characters between two byte offsets, if both are places to cut and in order. -/
def slice? (start stop : Nat) (cs : List Char) : Option (List Char) := do
  guard (start ≤ stop)
  let (_, back) ← splitAtByte? start cs
  let (middle, _) ← splitAtByte? (stop - start) back
  return middle

end Adventure.Text

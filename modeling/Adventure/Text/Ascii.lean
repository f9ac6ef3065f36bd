/-
Comparing texts without regard to the case of ASCII letters.

`Char.toLower` changes the letters A to Z and nothing else, so letters of other scripts
have to agree exactly.
-/

namespace Adventure.Text

/-- Whether two texts differ at most in the case of ASCII letters. -/
def sameIgnoringCase (s t : String) : Bool :=
  s.toList.map Char.toLower == t.toList.map Char.toLower

end Adventure.Text

/-
Cutting text into grapheme clusters.

A character either goes on with the cluster before it or starts one.  Three of the rules
look further back than one character: two consonants are linked over the marks between
them, two pictographs are joined if the joiner follows the first of them and its marks, and
regional indicators go in pairs.  What they look for always lies in the same cluster, so
the cluster so far is all that has to be known.
-/
import Adventure.Text.GraphemeClass

namespace Adventure.Text

open GraphemeClass (ofChar isLinker isWithinLink)

/-- Whether a text, the last character first, ends in a consonant that is linked to the
next one. -/
def endsLinked (before : List Char) : Bool :=
  (before.takeWhile isWithinLink).any isLinker &&
    (before.dropWhile isWithinLink).head?.any fun c => ofChar c == .consonant

/-- Whether a text, the last character first, ends in a pictograph with its marks. -/
def endsPictograph (before : List Char) : Bool :=
  (before.dropWhile fun c => ofChar c == .extend).head?.any fun c => ofChar c == .pictograph

/-- Whether a text ends in the first half of a flag. -/
def endsHalfFlag (before : List Char) : Bool :=
  (before.takeWhile fun c => ofChar c == .regional).length % 2 == 1

/-- Whether a character goes on with a cluster, which is given with the last character
first. -/
def continues (cluster : List Char) (c : Char) : Bool :=
  match cluster with
  | [] => false
  | last :: before =>
    match ofChar last, ofChar c with
    | .control, _ | _, .control => last == '\r' && c == '\n'
    | .leading, .leading | .leading, .vowel | .leading, .openSyllable
    | .leading, .closedSyllable => true
    | .openSyllable, .vowel | .openSyllable, .trailing | .vowel, .vowel
    | .vowel, .trailing => true
    | .closedSyllable, .trailing | .trailing, .trailing => true
    | _, .extend | _, .joiner | _, .spacingMark => true
    | .prepend, _ => true
    | _, .consonant => endsLinked cluster
    | .joiner, .pictograph => endsPictograph before
    | .regional, .regional => endsHalfFlag cluster
    | _, _ => false

/-- The clusters of a text, of which the first has been begun; what there is of it comes
with the last character first. -/
def graphemesFrom (cluster : List Char) : List Char → List (List Char)
  | [] => if cluster.isEmpty then [] else [cluster.reverse]
  | c :: rest =>
    if cluster.isEmpty || continues cluster c then graphemesFrom (c :: cluster) rest
    else cluster.reverse :: graphemesFrom [c] rest

/-- The grapheme clusters of a text. -/
def graphemes (cs : List Char) : List (List Char) :=
  graphemesFrom [] cs

end Adventure.Text

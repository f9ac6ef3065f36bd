/-
Completing the word at the cursor.

The word is what stands between the last blank before the cursor and the cursor.  It can
be completed to the words of the vocabulary, in lower case, and to meta commands.  Within
quotes nothing is completed; the cursor is within quotes when an odd number of quotes
stands before it.
-/
import Adventure.Session.Exchange

namespace Adventure.Terminal

/-- The words that can be completed to: each once, in order. -/
def completionWords (v : Vocabulary) : List String :=
  (WordMap.ofList ((v.words.map Text.lower ++ Session.metaCommands).map fun word =>
    (word, ()))).words

/-- What can be put for the word at the cursor. -/
structure Completion where
  /-- The byte offset where the word starts. -/
  start : Nat
  candidates : List String
  deriving DecidableEq, Repr

/-- Divides the text before the cursor at the last blank, which stays with the first
part. -/
def divideAtWord (before : List Char) : List Char × List Char :=
  let word := (before.reverse.takeWhile fun c => !Text.isBlank c).reverse
  (before.take (before.length - word.length), word)

/-- Whether a cursor is within quotes, from the text before it. -/
def inQuotes (before : List Char) : Bool :=
  before.count '"' % 2 == 1

/-- Completes the word that ends a text. -/
def completeAfter (v : Vocabulary) (before : List Char) : Completion :=
  let (front, word) := divideAtWord before
  let start := Text.byteLength front
  if inQuotes before then ⟨start, []⟩
  else
    let typed := Text.lower (String.ofList word)
    ⟨start, (completionWords v).filter fun candidate => typed.toList.isPrefixOf candidate.toList⟩

/-- Completes the word at a byte offset of a line, which is the start of a character or the
end. -/
def complete (v : Vocabulary) (line : String) (cursor : Nat) : Completion :=
  completeAfter v ((Text.slice? 0 cursor line.toList).getD line.toList)

end Adventure.Terminal

/-
Extra words for one game.

An overlay sends aliases to kinds.  Aliases are compared trimmed and upper-cased, and
stored so.  Blank aliases and structural kinds are refused, which the type records: no
overlay can turn a word into a quoted text or an end marker.
-/
import Adventure.Kind
import Adventure.Text.Upper
import Adventure.WordMap

namespace Adventure

/-- Aliases of one game. -/
structure Overlay where
  /-- Kinds by normalised alias. -/
  words : WordMap Kind
  /-- No alias is empty and no kind structural. -/
  proper : ∀ e ∈ words.entries, e.1 ≠ "" ∧ e.2.isStructural = false

namespace Overlay

/-- The form in which aliases are stored and compared. -/
def key (word : String) : String :=
  Text.upper (Text.trim word)

/-- The overlay without aliases. -/
def empty : Overlay :=
  ⟨.empty, by simp [WordMap.empty]⟩

/-- Whether an alias for a kind is accepted. -/
def accepts (word : String) (kind : Kind) : Bool :=
  key word != "" && !kind.isStructural

/-- Adds an alias, unless it is blank or the kind is structural. -/
def insert? (o : Overlay) (word : String) (kind : Kind) : Option Overlay :=
  if h : accepts word kind then
    some ⟨o.words.insert (key word) kind, fun e he => by
      rcases WordMap.mem_insertEntry he with rfl | he
      · simpa [accepts] using h
      · exact o.proper e he⟩
  else none

/-- Adds an alias; a refused one changes nothing. -/
def insert (o : Overlay) (word : String) (kind : Kind) : Overlay :=
  (o.insert? word kind).getD o

/-- Adds aliases from the first to the last. -/
def insertAll (o : Overlay) (pairs : List (String × Kind)) : Overlay :=
  pairs.foldl (fun o p => o.insert p.1 p.2) o

/-- The overlay that pairs build, inserted in order. -/
def ofPairs (pairs : List (String × Kind)) : Overlay :=
  empty.insertAll pairs

/-- The kind of an alias. -/
def find? (o : Overlay) (word : String) : Option Kind :=
  o.words.find? (key word)

/-- Aliases and kinds in order of the aliases. -/
def toList (o : Overlay) : List (String × Kind) :=
  o.words.entries

/-- The number of aliases. -/
def size (o : Overlay) : Nat :=
  o.words.size

/-- Whether there is no alias. -/
def isEmpty (o : Overlay) : Bool :=
  o.words.isEmpty

end Overlay

end Adventure

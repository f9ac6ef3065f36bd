/-
Words for verbs, as help shows them.

Each synonym stands for one verb, and each verb has a list of its synonyms.  Both ways are
kept, so sending a synonym to another verb takes it off one list and puts it on another.  A
verb keeps its list when all its synonyms have moved away: it is no longer shown then, but
it still stands for itself.  Words are compared trimmed and in lower case.
-/
import Adventure.Action
import Adventure.Text.Lower
import Adventure.Vocabulary.Overlay

namespace Adventure

/-- Synonyms of verbs. -/
structure Synonyms where
  /-- The verb of each synonym. -/
  verbOf : WordMap String := .empty
  /-- The synonyms of each verb that some word has stood for. -/
  lists : WordMap WordSet := .empty

namespace Synonyms

/-- The form in which words are stored and compared. -/
def key (word : String) : String :=
  Text.lower (Text.trim word)

/-- Whether a word can be a synonym of a verb: neither is blank, and they differ. -/
def accepts (word verb : String) : Bool :=
  key word != "" && key verb != "" && key word != key verb

/-- The list of a verb, empty where it has none. -/
def listOf (s : Synonyms) (verb : String) : WordSet :=
  (s.lists.find? verb).getD .empty

/-- Takes a word off the list of the verb that it stands for. -/
def withdraw (s : Synonyms) (word : String) : Synonyms :=
  match s.verbOf.find? word with
  | some previous => { s with lists := s.lists.modify previous (·.erase word) }
  | none => s

/-- Puts a word on the list of a verb and lets it stand for it. -/
def assign (s : Synonyms) (word verb : String) : Synonyms :=
  ⟨s.verbOf.insert word verb, s.lists.insert verb ((s.listOf verb).insert word ())⟩

/-- Makes a word a synonym of a verb; pairs that are not accepted change nothing. -/
def insert (s : Synonyms) (word verb : String) : Synonyms :=
  if accepts word verb then (s.withdraw (key word)).assign (key word) (key verb) else s

/-- Inserts pairs from the first to the last. -/
def insertAll (s : Synonyms) (pairs : List (String × String)) : Synonyms :=
  pairs.foldl (fun s pair => s.insert pair.1 pair.2) s

/-- The aliases of an overlay that stand for verbs, with the names of these verbs, in order
of the aliases. -/
def pairsOf (o : Overlay) : List (String × String) :=
  o.toList.filterMap fun entry =>
    (Action.ofKind? entry.2).map fun action => (entry.1, action.name)

/-- Adds the aliases of an overlay that stand for verbs. -/
def extend (s : Synonyms) (o : Overlay) : Synonyms :=
  s.insertAll (pairsOf o)

/-- The verb that a word stands for. -/
def canonicalize? (s : Synonyms) (word : String) : Option String :=
  match s.verbOf.find? (key word) with
  | some verb => some verb
  | none => if s.lists.contains (key word) then some (key word) else none

/-- The synonyms of a verb, in order. -/
def synonymsOf (s : Synonyms) (verb : String) : List String :=
  (s.listOf (key verb)).words

/-- What help says about the synonyms of a verb, if it has any. -/
def alsoAccepts? (s : Synonyms) (verb : String) : Option String :=
  let words := s.synonymsOf verb
  if words.isEmpty then none else some ("also accepts: " ++ ", ".intercalate words)

/-- The verbs with synonyms, in order. -/
def canonicals (s : Synonyms) : List String :=
  (s.lists.entries.filter fun entry => !entry.2.isEmpty).map Prod.fst

/-- The number of synonyms. -/
def size (s : Synonyms) : Nat :=
  s.verbOf.size

/-- Whether there is no synonym. -/
def isEmpty (s : Synonyms) : Bool :=
  s.verbOf.isEmpty

/-- The synonyms that every game knows. -/
def builtinPairs : List (String × String) :=
  [("walk", "go"), ("move", "go"), ("run", "go"), ("climb", "go"), ("head", "go"),
   ("travel", "go"), ("l", "look"), ("get", "take"), ("grab", "take"), ("discard", "drop"),
   ("unlock", "open"), ("place", "put"), ("insert", "put"), ("strike", "attack"),
   ("hit", "attack"), ("fight", "attack"), ("kill", "attack"), ("make", "craft"),
   ("build", "craft"), ("check", "inspect"), ("read", "inspect"), ("examine", "inspect"),
   ("search", "explore"), ("roll", "dice"), ("escape", "flee"), ("retreat", "flee"),
   ("say", "talk"), ("speak", "talk"), ("ask", "talk"), ("hear", "listen"), ("inv", "inventory"),
   ("i", "inventory"), ("exit", "quit"), ("?", "help")]

/-- The synonyms of a game without aliases. -/
def builtin : Synonyms :=
  ({} : Synonyms).insertAll builtinPairs

end Synonyms

end Adventure

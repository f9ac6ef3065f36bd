/-
The words a line is read with.

A vocabulary sends upper-case words to kinds.  Some words are always there; the aliases
of an overlay are laid over them and win where both know a word.  Neither of them holds a
structural kind, which the type records: no word is ever read as an end marker.
-/
import Adventure.Vocabulary.Overlay

namespace Adventure

/-- Upper-case words and their kinds. -/
structure Vocabulary extends WordMap Kind where
  /-- No kind is structural. -/
  proper : ∀ e ∈ entries, e.2.isStructural = false

namespace Vocabulary

/-- The words that every game knows. -/
def builtinWords : List (String × Kind) :=
  [("GO", .verb .go), ("MOVE", .verb .go), ("WALK", .verb .go), ("RUN", .verb .go),
   ("CLIMB", .verb .go), ("HEAD", .verb .go), ("TRAVEL", .verb .go), ("LOOK", .verb .look),
   ("L", .verb .look), ("INSPECT", .verb .inspect), ("CHECK", .verb .inspect),
   ("READ", .verb .inspect), ("LISTEN", .verb .listen), ("HEAR", .verb .listen),
   ("EXPLORE", .verb .explore), ("SEARCH", .verb .explore), ("TAKE", .verb .take),
   ("GET", .verb .take), ("GRAB", .verb .take), ("DROP", .verb .drop), ("DISCARD", .verb .drop),
   ("OPEN", .verb .open_), ("UNLOCK", .verb .open_), ("USE", .verb .use_), ("PUT", .verb .put),
   ("PLACE", .verb .put), ("INSERT", .verb .put), ("CRAFT", .verb .craft),
   ("MAKE", .verb .craft), ("BUILD", .verb .craft), ("HOW", .verb .how), ("DICE", .verb .dice),
   ("ROLL", .verb .dice), ("ATTACK", .verb .attack), ("STRIKE", .verb .attack),
   ("HIT", .verb .attack), ("FIGHT", .verb .attack), ("KILL", .verb .attack),
   ("FLEE", .verb .flee), ("ESCAPE", .verb .flee), ("RETREAT", .verb .flee),
   ("TALK", .verb .talk), ("SAY", .verb .talk), ("SPEAK", .verb .talk), ("ASK", .verb .talk),
   ("HELP", .verb .help), ("INVENTORY", .verb .inventory), ("INV", .verb .inventory),
   ("I", .verb .inventory), ("QUIT", .verb .quit), ("EXIT", .verb .quit),
   ("N", .direction .north), ("NORTH", .direction .north), ("NE", .direction .northEast),
   ("NORTHEAST", .direction .northEast), ("E", .direction .east), ("EAST", .direction .east),
   ("SE", .direction .southEast), ("SOUTHEAST", .direction .southEast), ("S", .direction .south),
   ("SOUTH", .direction .south), ("SW", .direction .southWest),
   ("SOUTHWEST", .direction .southWest), ("W", .direction .west), ("WEST", .direction .west),
   ("NW", .direction .northWest), ("NORTHWEST", .direction .northWest), ("UP", .direction .up),
   ("U", .direction .up), ("DOWN", .direction .down), ("D", .direction .down),
   ("IN", .preposition .in_), ("INTO", .preposition .into), ("ON", .preposition .on),
   ("FROM", .preposition .from_), ("WITH", .preposition .with_), ("USING", .preposition .using_),
   ("TO", .to_), ("AWAY", .away)]

/-- The vocabulary of a game without aliases. -/
def builtin : Vocabulary where
  toWordMap := .ofList builtinWords
  proper := WordMap.entries_insertAll (by simp [WordMap.empty]) (by decide)

/-- The vocabulary of a game with aliases: an alias hides a word that was there. -/
def extended (o : Overlay) : Vocabulary where
  toWordMap := builtin.insertAll o.toList
  proper := WordMap.entries_insertAll builtin.proper fun e he => (o.proper e he).2

/-- The kind of a word in any case; a word nobody knows is an identifier. -/
def kindOf (v : Vocabulary) (word : String) : Kind :=
  (v.find? (Text.upper word)).getD .identifier

end Vocabulary

end Adventure

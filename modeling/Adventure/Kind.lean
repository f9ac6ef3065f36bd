/-
What a token can be.

A token is a verb, a direction, a preposition that splits a phrase in two, one of the
two connecting words `to` and `away`, or one of the three structural kinds: a word no
vocabulary knows, a quoted text, the end of the line.  Vocabulary never holds a
structural kind, which `isStructural` tells apart.

A verb has two names: the name of its grammar kind, written in capitals, and the name
of the action it performs.  They are the same word except for `MOVE`, which performs
`go`, and `STRIKE`, which performs `attack`.
-/
import Adventure.Text.Ascii
import Adventure.Text.Blank

namespace Adventure

/-- The things a player can do. -/
inductive Verb where
  | go | look | take | drop | open_ | use_ | attack | put | craft | how | inspect | explore
  | dice | flee | talk | help | listen | inventory | quit
  deriving DecidableEq, Repr

namespace Verb

/-- All verbs, in the order of the grammar. -/
def all : List Verb :=
  [.go, .look, .take, .drop, .open_, .use_, .attack, .put, .craft, .how, .inspect, .explore,
   .dice, .flee, .talk, .help, .listen, .inventory, .quit]

/-- The name of the action. -/
def name : Verb → String
  | .go => "go"
  | .look => "look"
  | .take => "take"
  | .drop => "drop"
  | .open_ => "open"
  | .use_ => "use"
  | .attack => "attack"
  | .put => "put"
  | .craft => "craft"
  | .how => "how"
  | .inspect => "inspect"
  | .explore => "explore"
  | .dice => "dice"
  | .flee => "flee"
  | .talk => "talk"
  | .help => "help"
  | .listen => "listen"
  | .inventory => "inventory"
  | .quit => "quit"

/-- The name of the action in data files. -/
def label : Verb → String
  | .go => "Go"
  | .look => "Look"
  | .take => "Take"
  | .drop => "Drop"
  | .open_ => "Open"
  | .use_ => "Use"
  | .attack => "Attack"
  | .put => "Put"
  | .craft => "Craft"
  | .how => "How"
  | .inspect => "Inspect"
  | .explore => "Explore"
  | .dice => "Dice"
  | .flee => "Flee"
  | .talk => "Talk"
  | .help => "Help"
  | .listen => "Listen"
  | .inventory => "Inventory"
  | .quit => "Quit"

/-- The name of the grammar kind. -/
def keyword : Verb → String
  | .go => "MOVE"
  | .look => "LOOK"
  | .take => "TAKE"
  | .drop => "DROP"
  | .open_ => "OPEN"
  | .use_ => "USE"
  | .attack => "STRIKE"
  | .put => "PUT"
  | .craft => "CRAFT"
  | .how => "HOW"
  | .inspect => "INSPECT"
  | .explore => "EXPLORE"
  | .dice => "DICE"
  | .flee => "FLEE"
  | .talk => "TALK"
  | .help => "HELP"
  | .listen => "LISTEN"
  | .inventory => "INVENTORY"
  | .quit => "QUIT"

/-- The name of the grammar kind in data files. -/
def keywordLabel : Verb → String
  | .go => "Move"
  | .attack => "Strike"
  | v => v.label

/-- Whether the verb stands alone: nothing may follow it. -/
def standsAlone : Verb → Bool
  | .help | .listen | .inventory | .quit => true
  | _ => false

end Verb

/-- Where a player can go. -/
inductive Direction where
  | north | northEast | east | southEast | south | southWest | west | northWest | up | down
  deriving DecidableEq, Repr

namespace Direction

/-- All directions, clockwise from north, then up and down. -/
def all : List Direction :=
  [.north, .northEast, .east, .southEast, .south, .southWest, .west, .northWest, .up, .down]

/-- The name of the grammar kind. -/
def keyword : Direction → String
  | .north => "N"
  | .northEast => "NE"
  | .east => "E"
  | .southEast => "SE"
  | .south => "S"
  | .southWest => "SW"
  | .west => "W"
  | .northWest => "NW"
  | .up => "UP"
  | .down => "DOWN"

/-- The name of the grammar kind in data files. -/
def label : Direction → String
  | .north => "North"
  | .northEast => "NorthEast"
  | .east => "East"
  | .southEast => "SouthEast"
  | .south => "South"
  | .southWest => "SouthWest"
  | .west => "West"
  | .northWest => "NorthWest"
  | .up => "Up"
  | .down => "Down"

end Direction

/-- The words that split a phrase into a target and an object. -/
inductive Preposition where
  | in_ | into | on | from_ | with_ | using_
  deriving DecidableEq, Repr

namespace Preposition

/-- All splitting prepositions. -/
def all : List Preposition :=
  [.in_, .into, .on, .from_, .with_, .using_]

/-- The name of the grammar kind. -/
def keyword : Preposition → String
  | .in_ => "IN"
  | .into => "INTO"
  | .on => "ON"
  | .from_ => "FROM"
  | .with_ => "WITH"
  | .using_ => "USING"

/-- The name of the grammar kind in data files. -/
def label : Preposition → String
  | .in_ => "In"
  | .into => "Into"
  | .on => "On"
  | .from_ => "From"
  | .with_ => "With"
  | .using_ => "Using"

end Preposition

/-- The kind of a token. -/
inductive Kind where
  | verb (v : Verb)
  | direction (d : Direction)
  | preposition (p : Preposition)
  | to_
  | away
  | identifier
  | string
  | eol
  deriving DecidableEq, Repr

namespace Kind

/-- All kinds, in the order of the grammar. -/
def all : List Kind :=
  Verb.all.map verb ++ Direction.all.map direction ++ Preposition.all.map preposition ++
    [to_, away, identifier, string, eol]

/-- The name of a kind. -/
def name : Kind → String
  | verb v => v.keyword
  | direction d => d.keyword
  | preposition p => p.keyword
  | to_ => "TO"
  | away => "AWAY"
  | identifier => "IDENTIFIER"
  | string => "STRING"
  | eol => "EOL"

/-- The name of a kind in data files. -/
def label : Kind → String
  | verb v => v.keywordLabel
  | direction d => d.label
  | preposition p => p.label
  | to_ => "To"
  | away => "Away"
  | identifier => "Identifier"
  | string => "String"
  | eol => "Eol"

/-- Reads the name of a kind, blanks around it and ASCII case left aside. -/
def ofName? (text : String) : Option Kind :=
  all.find? fun kind => Text.sameIgnoringCase kind.name (Text.trim text)

/-- The verb of a verb kind. -/
def verb? : Kind → Option Verb
  | verb v => some v
  | _ => none

/-- Whether the kind is a direction. -/
def isDirection : Kind → Bool
  | direction _ => true
  | _ => false

/-- Whether the kind is a preposition that splits a phrase. -/
def isSplitting : Kind → Bool
  | preposition _ => true
  | _ => false

/-- Whether the kind comes from the shape of the text and never from vocabulary. -/
def isStructural : Kind → Bool
  | identifier | string | eol => true
  | _ => false

end Kind

end Adventure

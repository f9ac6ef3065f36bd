/-
What a line means to the grammar.

The first token decides.  A direction by itself is a movement there, whatever follows; a
verb applies its rule to the tokens up to the end marker; anything else is not understood.
A line that breaks the rule of its verb is an error, which carries the line.
-/
import Adventure.Action
import Adventure.Phrase

namespace Adventure

/-- A complaint as it is reported: the words, the column and the line. -/
structure ParseError where
  message : String
  column : Nat
  input : String
  deriving DecidableEq, Repr

namespace ParseError

/-- The complaint on one line. -/
def describe (e : ParseError) : String :=
  s!"{e.message} (column {e.column})"

/-- A caret under the column. -/
def caret (e : ParseError) : String :=
  String.ofList (List.replicate e.column ' ' ++ ['^'])

end ParseError

/-- The meaning of a line. -/
inductive Node where
  | verb (action : Action) (phrase : Phrase)
  | error (e : ParseError)
  | unknown
  deriving DecidableEq, Repr

/-- What a rule makes of the words after its verb: the verb performed and its phrase. -/
abbrev Ruling := Except Objection (Verb × Phrase)

namespace Ruling

/-- A verb that stands alone. -/
def alone (v : Verb) (verb : Token) (args : List Token) : Ruling :=
  match args with
  | [] => .ok (v, {})
  | extra :: _ => .error ⟨.unexpectedAfter (Text.lower verb.lexeme), extra.column⟩

/-- Fleeing allows only `away`. -/
def flee (verb : Token) (args : List Token) : Ruling :=
  match args.find? fun t => t.kind != .away with
  | some extra => .error ⟨.unexpectedAfter (Text.lower verb.lexeme), extra.column⟩
  | none => .ok (.flee, { raw := Token.join args })

/-- Moving: leading `to`s are dropped, and a direction anywhere is the destination.  To
run, or to run away, is to flee. -/
def move (verb : Token) (args : List Token) : Ruling :=
  if Text.sameIgnoringCase verb.lexeme "run" && args.all (·.kind == .away) then
    flee verb args
  else
    match args.dropWhile (·.kind == .to_), (args.takeWhile (·.kind == .to_)).getLast? with
    | [], some to_ => .error ⟨.noDestinationAfter (Text.lower to_.lexeme), to_.column⟩
    | rest, _ => do
      let phrase ← Phrase.split rest
      let target :=
        match args.find? (·.kind.isDirection) with
        | some direction => direction.lexeme
        | none => phrase.target
      if Text.isBlankText target then
        throw ⟨.goWhere, verb.column⟩
      return (.go, { phrase with raw := Token.join args, target })

/-- The first word of `look around`, also in a common misspelling. -/
def isAround (t : Token) : Bool :=
  t.kind == .identifier && (Text.lower t.lexeme == "around" || Text.lower t.lexeme == "arround")

/-- Looking: `look around` is to look, whatever follows. -/
def look (args : List Token) : Ruling := do
  let phrase ← Phrase.split args
  match args with
  | first :: _ => return (.look, if isAround first then {} else phrase)
  | [] => return (.look, phrase)

/-- Talking: leading `to`s are dropped, and there must be somebody. -/
def talk (verb : Token) (args : List Token) : Ruling := do
  let phrase ← Phrase.split (args.dropWhile (·.kind == .to_))
  if Text.isBlankText phrase.target then
    throw ⟨.talkToWhom, verb.column⟩
  return (.talk, { phrase with raw := Token.join args })

/-- The rule of a verb. -/
def ofVerb (v : Verb) (verb : Token) (args : List Token) : Ruling :=
  match v with
  | .help | .listen | .inventory | .quit => alone v verb args
  | .flee => flee verb args
  | .go => move verb args
  | .look => look args
  | .talk => talk verb args
  | _ => do return (v, ← Phrase.split args)

end Ruling

namespace Node

/-- The node of a ruling on a line. -/
def ofRuling (input : String) : Ruling → Node
  | .ok (v, phrase) => .verb (.perform v) phrase
  | .error e => .error ⟨e.complaint.message, e.column, input⟩

/-- The meaning of tokens, which need not come from a scan; `input` is the line that an
error reports. -/
def ofTokens (input : String) : List Token → Node
  | [] => .unknown
  | first :: rest =>
    match first.kind with
    | .direction _ => .verb (.perform .go) (.ofTarget first.lexeme)
    | .verb v => ofRuling input (.ofVerb v first (rest.takeWhile fun t => !t.isEol))
    | _ => .unknown

end Node

end Adventure

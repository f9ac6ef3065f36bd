/-
What follows a verb, taken apart.

Words after a verb name a target; a splitting preposition strictly inside them divides
target from object.  The rules of the verbs build on that split.  A rule that its words
break answers with a complaint, which is the cause, and with the column of the token that
broke it.
-/
import Adventure.Text.Lower
import Adventure.Token

namespace Adventure

/-- The words after a verb. -/
structure Phrase where
  /-- All of them, before any rule dropped or replaced some. -/
  raw : String := ""
  /-- What is acted upon; empty if nothing. -/
  target : String := ""
  /-- The splitting preposition in lower case. -/
  preposition : Option String := none
  /-- What comes after the preposition. -/
  object : Option String := none
  deriving DecidableEq, Repr

namespace Phrase

/-- The phrase of a target alone. -/
def ofTarget (target : String) : Phrase :=
  { raw := target, target }

/-- Whether the phrase says nothing. -/
def isEmpty (p : Phrase) : Bool :=
  p.raw.isEmpty && p.target.isEmpty && p.object.isNone

end Phrase

/-- Why the words after a verb break its rule. -/
inductive Complaint where
  /-- Words after a verb that stands alone. -/
  | unexpectedAfter (verb : String)
  /-- Nothing after the last leading `to`. -/
  | noDestinationAfter (word : String)
  /-- Nothing before the preposition. -/
  | noTargetBefore (word : String)
  /-- Nothing after the preposition. -/
  | noObjectAfter (word : String)
  /-- A movement without a destination. -/
  | goWhere
  /-- A conversation without a partner. -/
  | talkToWhom
  deriving DecidableEq, Repr

namespace Complaint

/-- The complaint in words. -/
def message : Complaint → String
  | unexpectedAfter verb => s!"Unexpected input after '{verb}'"
  | noDestinationAfter word => s!"Expected destination after '{word}'"
  | noTargetBefore word => s!"Expected target before '{word}'"
  | noObjectAfter word => s!"Expected object after '{word}'"
  | goWhere => "Go where?"
  | talkToWhom => "Talk to whom?"

end Complaint

/-- A complaint and the column it is about. -/
structure Objection where
  complaint : Complaint
  column : Nat
  deriving DecidableEq, Repr

namespace Phrase

/-- Divides words at the first splitting preposition, which must have words on both
sides. -/
def split (args : List Token) : Except Objection Phrase :=
  let before := args.takeWhile fun t => !t.kind.isSplitting
  match args.dropWhile fun t => !t.kind.isSplitting with
  | [] => .ok (.ofTarget (Token.join args))
  | p :: after =>
    let word := Text.lower p.lexeme
    if before.isEmpty then .error ⟨.noTargetBefore word, p.column⟩
    else if after.isEmpty then .error ⟨.noObjectAfter word, p.column⟩
    else .ok ⟨Token.join args, Token.join before, some word, some (Token.join after)⟩

end Phrase

end Adventure

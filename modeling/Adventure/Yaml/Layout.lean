/-
From characters to tokens.

The layout of the text decides which tokens there are.  A column deeper than the current
indentation opens a block collection; a shallower one closes blocks.  Whether a scalar is
a key is only known when the colon behind it is met: until then it is a candidate, and
when the colon comes a key token, and perhaps the start of a block mapping, are put in
front of it.  There is at most one candidate at each depth of flow collections.  They lapse
at the end of their line, or 1024 bytes on.

Tokens are made no earlier than they are asked for, except that a token is held back
while it is a candidate.  So a fault further on in the text is found only by a reader
that gets there.
-/
import Adventure.Yaml.Property
import Adventure.Yaml.Readable
import Adventure.Yaml.Scalar

namespace Adventure.Yaml

/-- A token that may turn out to be a key. -/
structure Candidate where
  /-- How many flow collections were open. -/
  depth : Nat
  /-- Whether it must be a key, because it stands at the indentation of a block. -/
  required : Bool
  /-- The number of the token, counted from the start of the text. -/
  number : Nat
  /-- Where it starts. -/
  mark : Mark

/-- A text being cut into tokens. -/
structure Layout where
  cursor : Cursor
  /-- Whether the text goes on behind what can be read of it. -/
  cutOff : Bool := false
  /-- Tokens made and not yet given away. -/
  queue : List Token := []
  /-- The number of tokens given away. -/
  given : Nat := 0
  /-- The column of the current block, and those of the blocks around it. -/
  indent : Int := -1
  outer : List Int := []
  /-- Whether a key may start here. -/
  keyAllowed : Bool := true
  /-- How many flow collections are open. -/
  depth : Nat := 0
  /-- The candidates, at most one for each depth, the deepest first. -/
  candidates : List Candidate := []

namespace Layout

/-- The layout at the start of a text. -/
def start (cs : List Char) : Layout :=
  let readable := Readable.ofText cs
  { cursor := { rest := readable.text }, cutOff := !readable.whole, queue := [.streamStart] }

/-- Whether a flow collection is open. -/
def inFlow (l : Layout) : Bool :=
  l.depth != 0

/-- A fault at the place reached. -/
def fail {α : Type} (l : Layout) (problem : Problem) : Except Fault α :=
  l.cursor.fail problem

/-- Adds a token. -/
def push (l : Layout) (token : Token) : Layout :=
  { l with queue := l.queue ++ [token] }

/-- Puts a token in front of the one with the given number. -/
def insertAt (l : Layout) (number : Nat) (token : Token) : Layout :=
  let place := number - l.given
  { l with queue := l.queue.take place ++ token :: l.queue.drop place }

/-- Moves on. -/
def moveTo (l : Layout) (c : Cursor) : Layout :=
  { l with cursor := c }

/-- Passes over an indicator and adds its token. -/
def pushIndicator (l : Layout) (length : Nat) (token : Token) : Layout :=
  (l.moveTo (l.cursor.skip length)).push token

/-! ### Candidates for keys -/

/-- The candidate of the current depth. -/
def candidate (l : Layout) : Option Candidate :=
  l.candidates.head?.filter fun candidate => candidate.depth == l.depth

/-- Forgets the candidate of the current depth. -/
def forgetCandidate (l : Layout) : Layout :=
  if l.candidate.isSome then { l with candidates := l.candidates.drop 1 } else l

/-- Drops the candidate of the current depth; one that had to be a key is a fault. -/
def dropCandidate (l : Layout) : Except Fault Layout :=
  if l.candidate.any Candidate.required then l.fail .keyWithoutColon else .ok l.forgetCandidate

/-- Makes the next token a candidate, where a key may start. -/
def saveCandidate (l : Layout) : Except Fault Layout :=
  if l.keyAllowed then do
    let fresh : Candidate :=
      { depth := l.depth
        required := !l.inFlow && l.indent == (l.cursor.column : Int)
        number := l.given + l.queue.length
        mark := l.cursor.mark }
    let l ← l.dropCandidate
    return { l with candidates := fresh :: l.candidates }
  else .ok l

/-- Whether a candidate has been left behind. -/
def isStale (l : Layout) (candidate : Candidate) : Bool :=
  candidate.mark.line < l.cursor.mark.line || candidate.mark.index + 1024 < l.cursor.mark.index

/-- Drops the candidates that have been left behind; one that had to be a key is a
fault. -/
def dropStale (l : Layout) : Except Fault Layout :=
  if l.candidates.any fun candidate => l.isStale candidate && candidate.required then
    l.fail .keyWithoutColon
  else .ok { l with candidates := l.candidates.filter fun candidate => !l.isStale candidate }

/-! ### Blocks -/

/-- Opens a block collection at a column deeper than the current block; its start goes in
front of the token with the given number, or at the end. -/
def openBlock (l : Layout) (column : Nat) (number : Option Nat) (token : Token) : Layout :=
  if !l.inFlow && l.indent < (column : Int) then
    let l := { l with outer := l.indent :: l.outer, indent := column }
    match number with
    | some number => l.insertAt number token
    | none => l.push token
  else l

/-- Closes the given outer blocks as long as the current one is deeper than a column. -/
def closeFrom (column : Int) : List Int → Layout → Layout
  | [], l => l
  | next :: rest, l =>
    if l.indent > column then
      closeFrom column rest { l.push .blockEnd with indent := next, outer := rest }
    else l

/-- Closes the blocks that are deeper than a column. -/
def closeBlocks (l : Layout) (column : Int) : Layout :=
  if l.inFlow then l else closeFrom column l.outer l

/-! ### The tokens one by one -/

/-- The end of the text. -/
def takeEnd (l : Layout) : Except Fault Layout := do
  let mark := l.cursor.mark
  let l :=
    if mark.column == 0 then l
    else l.moveTo { l.cursor with mark := { mark with line := mark.line + 1, column := 0 } }
  let l ← (l.closeBlocks (-1)).dropCandidate
  return { l.push .streamEnd with keyAllowed := false }

/-- A directive. -/
def directive (l : Layout) : Except Fault Layout := do
  let l ← (l.closeBlocks (-1)).dropCandidate
  let (token, c) ← takeDirective l.cursor
  return { (l.moveTo c).push token with keyAllowed := false }

/-- A document marker. -/
def documentMarker (l : Layout) (token : Token) : Except Fault Layout := do
  let l ← (l.closeBlocks (-1)).dropCandidate
  return { l.pushIndicator 3 token with keyAllowed := false }

/-- The start of a flow collection. -/
def flowStart (l : Layout) (token : Token) : Except Fault Layout := do
  let l ← l.saveCandidate
  return { l.pushIndicator 1 token with depth := l.depth + 1, keyAllowed := true }

/-- The end of a flow collection. -/
def flowEnd (l : Layout) (token : Token) : Except Fault Layout := do
  let l ← l.dropCandidate
  return { l.pushIndicator 1 token with depth := l.depth - 1, keyAllowed := false }

/-- A comma of a flow collection. -/
def flowEntry (l : Layout) : Except Fault Layout := do
  let l ← l.dropCandidate
  return { l.pushIndicator 1 .flowEntry with keyAllowed := true }

/-- The hyphen of a block sequence. -/
def blockEntry (l : Layout) : Except Fault Layout := do
  if !l.inFlow && !l.keyAllowed then l.fail .notAllowedHere
  else
    let l ← (l.openBlock l.cursor.column none .blockSequenceStart).dropCandidate
    return { l.pushIndicator 1 .blockEntry with keyAllowed := true }

/-- The question mark of a key. -/
def explicitKey (l : Layout) : Except Fault Layout := do
  if !l.inFlow && !l.keyAllowed then l.fail .notAllowedHere
  else
    let l ← (l.openBlock l.cursor.column none .blockMappingStart).dropCandidate
    return { l.pushIndicator 1 .key with keyAllowed := !l.inFlow }

/-- The colon of a value, which turns a candidate into a key. -/
def value (l : Layout) : Except Fault Layout :=
  match l.candidate with
  | some candidate =>
    let l := l.insertAt candidate.number .key
    let l := l.openBlock candidate.mark.column (some candidate.number) .blockMappingStart
    .ok { l.forgetCandidate.pushIndicator 1 .value with keyAllowed := false }
  | none =>
    if !l.inFlow && !l.keyAllowed then l.fail .notAllowedHere
    else
      let l := l.openBlock l.cursor.column none .blockMappingStart
      .ok { l.pushIndicator 1 .value with keyAllowed := !l.inFlow }

/-- An anchor, or a use of one. -/
def anchor (l : Layout) (token : String → Token) : Except Fault Layout := do
  let l ← l.saveCandidate
  let (name, c) ← anchorName l.cursor
  return { (l.moveTo c).push (token name) with keyAllowed := false }

/-- A tag. -/
def tag (l : Layout) : Except Fault Layout := do
  let l ← l.saveCandidate
  let (token, c) ← takeTag l.inFlow l.cursor
  return { (l.moveTo c).push token with keyAllowed := false }

/-- A block scalar. -/
def block (l : Layout) (literal : Bool) : Except Fault Layout := do
  let l ← l.dropCandidate
  let (text, c) ← blockScalar literal l.indent l.cursor
  return { (l.moveTo c).push (.scalar text false) with keyAllowed := true }

/-- A quoted scalar. -/
def quoted (l : Layout) (quote : Char) : Except Fault Layout := do
  let l ← l.saveCandidate
  let (text, c) ← quotedScalar quote l.cursor
  return { (l.moveTo c).push (.scalar text false) with keyAllowed := false }

/-- A plain scalar. -/
def plain (l : Layout) : Except Fault Layout := do
  let l ← l.saveCandidate
  let (text, broken, c) ← plainScalar l.inFlow (l.indent + 1).toNat l.cursor
  return { (l.moveTo c).push (.scalar text true) with keyAllowed := broken }

/-! ### The next token -/

/-- Passes over blanks, comments and line breaks.  Tabs count as blanks where they cannot
be indentation, and a byte order mark may start a line. -/
def skipSpace : Nat → Layout → Layout
  | 0, l => l
  | fuel + 1, l =>
    let c := l.cursor
    let c := if c.column == 0 && c.at? '\uFEFF' then c.skip 1 else c
    let tabs := l.inFlow || !l.keyAllowed
    let c := c.skipWhile fun char => char == ' ' || (tabs && char == '\t')
    let c := if c.at? '#' then c.skipToBreak else c
    if c.peek.any isBreak then
      skipSpace fuel
        { l with cursor := c.takeBreak.2, keyAllowed := if l.inFlow then l.keyAllowed else true }
    else l.moveTo c

/-- Whether a plain scalar starts with a character, given the one behind it. -/
def startsPlain (l : Layout) (char : Char) (next : Option Char) : Bool :=
  let indicators := "-?:,[]\x7b\x7d#&*!|>'\"%@`".toList
  !(isBlankOrEnd (some char) || indicators.contains char)
    || (char == '-' && !next.any isBlank)
    || (!l.inFlow && (char == '?' || char == ':') && !isBlankOrEnd next)

/-- Makes the token at the place reached. -/
def takeToken (l : Layout) : Except Fault Layout :=
  let c := l.cursor
  match c.peek with
  | none => l.takeEnd
  | some char =>
    let next := c.peekAt 1
    if c.column == 0 && char == '%' then l.directive
    else if c.atMarker '-' then l.documentMarker .documentStart
    else if c.atMarker '.' then l.documentMarker .documentEnd
    else if char == '[' then l.flowStart .flowSequenceStart
    else if char == '\x7b' then l.flowStart .flowMappingStart
    else if char == ']' then l.flowEnd .flowSequenceEnd
    else if char == '\x7d' then l.flowEnd .flowMappingEnd
    else if char == ',' then l.flowEntry
    else if char == '-' && isBlankOrEnd next then l.blockEntry
    else if char == '?' && (l.inFlow || isBlankOrEnd next) then l.explicitKey
    else if char == ':' && (l.inFlow || isBlankOrEnd next) then l.value
    else if char == '*' then l.anchor .reference
    else if char == '&' then l.anchor .anchor
    else if char == '!' then l.tag
    else if char == '|' && !l.inFlow then l.block true
    else if char == '>' && !l.inFlow then l.block false
    else if char == '\'' || char == '"' then l.quoted char
    else if l.startsPlain char next then l.plain
    else l.fail .noTokenStart

/-- Whether the characters that decide on the next token cannot be read. -/
def isBlocked (l : Layout) : Bool :=
  l.cutOff && (l.cursor.peekAt 3).isNone

/-- Makes one more token, and those that closing blocks adds. -/
def advance (l : Layout) : Except Fault Layout := do
  let l := skipSpace (l.cursor.left + 1) l
  if l.isBlocked then l.fail .controlCharacter
  else
    let l ← l.dropStale
    (l.closeBlocks l.cursor.column).takeToken

/-- Whether the token at the front may still turn out to be a key. -/
def mustWait (l : Layout) : Bool :=
  l.candidates.any fun candidate => candidate.number == l.given

/-- Makes tokens until the one at the front is certain. -/
def settle : Nat → Layout → Except Fault Layout
  | 0, l => .ok l
  | fuel + 1, l =>
    if l.queue.isEmpty then do settle fuel (← l.advance)
    else do
      let l ← l.dropStale
      if l.mustWait then settle fuel (← l.advance) else return l

/-- The next token, which stays at the front. -/
def peek (l : Layout) : Except Fault (Token × Layout) := do
  let l ← settle (l.cursor.left + 2) l
  match l.queue with
  | token :: _ => return (token, l)
  | [] => l.fail .unexpectedToken

/-- Gives the token at the front away. -/
def drop (l : Layout) : Layout :=
  { l with queue := l.queue.drop 1, given := l.given + 1 }

end Layout

end Adventure.Yaml

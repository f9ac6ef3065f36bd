/-
Values of YAML documents.

Plain scalars are read by their spelling, as null, a boolean, a number or a string; quoted
and block scalars are strings.  A tag of the standard set says what a scalar is; a local
tag is kept around its value.  In a mapping no key comes twice, where keys are compared as
values.
-/
import Adventure.Yaml.Event
import Adventure.Yaml.Number

namespace Adventure.Yaml

/-- A value. -/
inductive Value where
  | null
  | bool (b : Bool)
  | number (n : Number)
  | string (s : String)
  | sequence (items : List Value)
  | mapping (entries : List (Value × Value))
  | tagged (tag : String) (value : Value)

namespace Value

/-! ### Equality of keys -/

mutual

/-- Whether two values are equal; the order of mappings does not matter. -/
def same : Value → Value → Bool
  | null, null => true
  | bool a, bool b => a == b
  | number m, number n => m.same n
  | string s, string t => s == t
  | sequence xs, sequence ys => sameItems xs ys
  | mapping xs, mapping ys => xs.length == ys.length && sameEntries xs ys
  | tagged s x, tagged t y => s == t && same x y
  | _, _ => false

/-- Whether two sequences are equal. -/
def sameItems : List Value → List Value → Bool
  | [], [] => true
  | x :: xs, y :: ys => same x y && sameItems xs ys
  | _, _ => false

/-- Whether every entry of the first mapping is in the second. -/
def sameEntries : List (Value × Value) → List (Value × Value) → Bool
  | [], _ => true
  | (key, value) :: xs, ys =>
    (ys.any fun entry => same key entry.1 && same value entry.2) && sameEntries xs ys

end

/-! ### Views -/

/-- The value without its tags. -/
def untagged : Value → Value
  | tagged _ value => value.untagged
  | value => value

/-- The value of a string key in a mapping, looked at through tags. -/
def get? (v : Value) (name : String) : Option Value :=
  match v.untagged with
  | mapping entries =>
    (entries.find? fun entry => same entry.1 (string name)).map Prod.snd
  | _ => none

/-- The text of a scalar other than null. -/
def scalarText? : Value → Option String
  | string s => some s
  | number n => some n.text
  | bool b => some (if b then "true" else "false")
  | _ => none

/-! ### Scalars -/

/-- Whether a spelling is null. -/
def isNull (text : String) : Bool :=
  ["null", "Null", "NULL", "~"].contains text

/-- The boolean that a spelling stands for. -/
def bool? (text : String) : Option Bool :=
  if ["true", "True", "TRUE"].contains text then some true
  else if ["false", "False", "FALSE"].contains text then some false
  else none

/-- The value of an integer; one beyond 64 bits is refused. -/
def ofInteger (n : Int) : Except Problem Value :=
  if fits n then .ok (.number (.int n)) else .error .integerTooLarge

/-- The integer that a spelling stands for, as far as it is not left to floating point. -/
def integerOf? (text : String) : Option Int :=
  (integer? text.toList).filter fitsDouble

/-- The value of a plain scalar. -/
def ofPlain (text : String) : Except Problem Value :=
  if text.isEmpty || isNull text then .ok null
  else
    match bool? text, integerOf? text with
    | some b, _ => .ok (bool b)
    | none, some n => ofInteger n
    | none, none =>
      match if hasLeadingZero text.toList then none else float? text with
      | some x => .ok (number (.float x))
      | none => .ok (string text)

/-- The value of a scalar with a tag of the standard set. -/
def ofStandard (tag text : String) : Except Problem Value :=
  match tag with
  | "tag:yaml.org,2002:bool" =>
    match bool? text with
    | some b => .ok (bool b)
    | none => .error .notOfTag
  | "tag:yaml.org,2002:int" =>
    match integerOf? text with
    | some n => ofInteger n
    | none => .error .notOfTag
  | "tag:yaml.org,2002:float" =>
    match float? text with
    | some x => .ok (number (.float x))
    | none => .error .notOfTag
  | "tag:yaml.org,2002:null" => if isNull text then .ok null else .error .notOfTag
  | _ => .ok (string text)

/-- A name without a mark in front of it, which does not count; a lone mark stays. -/
def withoutMark (name : List Char) : List Char :=
  match name with
  | '!' :: c :: rest => c :: rest
  | _ => name

/-- Whether a tag is local: it starts with an exclamation mark. -/
def isLocal (tag : List UInt8) : Bool :=
  tag.head? == bareTag.head?

/-- The name of a local tag.  One mark belongs to the tag and another is passed over.  A
tag that does not spell text has no name. -/
def localName? (tag : Option (List UInt8)) : Option String := do
  let tag ← tag.filter isLocal
  let text ← Text.decode? tag
  return String.ofList (withoutMark (withoutMark text.toList))

/-- The value of a scalar whose local tag, if it has one, is left aside. -/
def ofScalar (tag : Option (List UInt8)) (text : String) (plain : Bool) : Except Problem Value :=
  match tag.filter fun tag => !isLocal tag with
  | some tag => ofStandard ((Text.decode? tag).getD "") text
  | none => if plain then ofPlain text else .ok (string text)

end Value

/-! ### From a document to its value -/

/-- Where reading a document has got to. -/
structure Reading where
  /-- The index of the next event. -/
  index : Nat := 0
  /-- How often a node has been used once more. -/
  jumps : Nat := 0

/-- A step of reading a document. -/
abbrev Read := ReaderT Document (StateT Reading (Except Fault))

namespace Read

/-- The next event and its place, without passing over it; behind the last event is the
fault of the document. -/
def peek : Read (Event × Mark) := do
  let document ← read
  match document.events[(← get).index]?, document.fault with
  | some entry, _ => return entry
  | none, some fault => throw fault
  | none, none => return (.void, {})

/-- Passes over the next event. -/
def advance : Read Unit :=
  modify fun r => { r with index := r.index + 1 }

/-- The value of a scalar, or a fault at its place. -/
def scalar (mark : Mark) (tag : Option (List UInt8)) (text : String) (plain : Bool) :
    Read Value :=
  match Value.ofScalar tag text plain with
  | .ok value => return value
  | .error problem => throw (.located problem mark)

mutual

/-- Reads a node.  `depth` is how many collections may still be opened, and `tagged` says
that its local tag has been dealt with. -/
def node : Nat → Nat → Bool → Read Value
  | 0, _, _ => do throw (.located .tooDeep (← peek).2)
  | fuel + 1, depth, tagged => do
    let (event, mark) ← peek
    match event with
    | .reference number =>
      modify fun r => { r with jumps := r.jumps + 1 }
      if (← get).jumps > 100 * (← read).events.size then throw .repetition
      match (← read).targets.reverse.lookup number with
      | some target =>
        let back := (← get).index + 1
        modify fun r => { r with index := target }
        let value ← node fuel depth false
        modify fun r => { r with index := back }
        return value
      | none => throw (.located .unknownAnchor mark)
    | .scalar tag text plain =>
      advance
      let value ← scalar mark tag text plain
      match Value.localName? tag with
      | some name => return .tagged name value
      | none => return value
    | .sequenceStart tag =>
      match Value.localName? tag, tagged with
      | some name, false => return .tagged name (← node fuel depth true)
      | _, _ =>
        if depth == 0 then throw (.located .tooDeep mark)
        advance
        return .sequence (← items fuel (depth - 1))
    | .mappingStart tag =>
      match Value.localName? tag, tagged with
      | some name, false => return .tagged name (← node fuel depth true)
      | _, _ =>
        if depth == 0 then throw (.located .tooDeep mark)
        advance
        return .mapping (← entries fuel (depth - 1) [])
    | .void | .sequenceEnd | .mappingEnd =>
      advance
      return .null

/-- Reads the items of a sequence and its end. -/
def items : Nat → Nat → Read (List Value)
  | 0, _ => do throw (.located .tooDeep (← peek).2)
  | fuel + 1, depth => do
    match (← peek).1 with
    | .sequenceEnd =>
      advance
      return []
    | _ =>
      let item ← node fuel depth false
      return item :: (← items fuel depth)

/-- Reads the entries of a mapping that follow some, and its end. -/
def entries : Nat → Nat → List (Value × Value) → Read (List (Value × Value))
  | 0, _, _ => do throw (.located .tooDeep (← peek).2)
  | fuel + 1, depth, done => do
    let (event, mark) ← peek
    match event with
    | .mappingEnd =>
      advance
      return done
    | _ =>
      let key ← node fuel depth false
      if done.any fun entry => Value.same entry.1 key then throw (.located .duplicateKey mark)
      let value ← node fuel depth false
      entries fuel depth (done ++ [(key, value)])

end

end Read

/-- The greatest number of collections inside one another. -/
def depthLimit : Nat := 128

/-- The value of a document, which has to come to its end. -/
def Document.value (d : Document) : Except Fault Value := do
  let fuel := (d.events.size + 4) * (depthLimit + 2)
  let (value, _) ← (Read.node fuel depthLimit false).run d |>.run {}
  match d.fault with
  | some fault => throw fault
  | none => return value

/-- Reads a text that holds one document. -/
def read (text : String) : Except Fault Value := do
  let (document, layout) := firstDocument text
  let value ← document.value
  if layout.isOver (text.length + 2) then return value
  else throw .moreThanOneDocument

end Adventure.Yaml

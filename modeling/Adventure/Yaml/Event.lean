/-
From tokens to the nodes of a document.

A document is the row of its nodes as events: a scalar is one event, a collection a start
event, the events of what it holds and an end event.  A use of an anchored node refers to
it by number.  An anchor gets as its number how many different names have been anchored
before it, and a number stands for the last node that got it.  The row ends early where
the text has a fault; what a reader makes of it is decided when the reader gets there.

Recursion is bounded by fuel.  Each round gives a token away or goes on to a node that
does, so a multiple of the length of the text is always enough.
-/
import Adventure.Text.Lines
import Adventure.Yaml.Layout

namespace Adventure.Yaml

/-- A part of a document. -/
inductive Event where
  /-- The node with a number, once more. -/
  | reference (number : Nat)
  /-- A scalar, and whether it is plain. -/
  | scalar (tag : Option (List UInt8)) (text : String) (plain : Bool)
  | sequenceStart (tag : Option (List UInt8))
  | sequenceEnd
  | mappingStart (tag : Option (List UInt8))
  | mappingEnd
  /-- A document without a node. -/
  | void
  deriving DecidableEq, Repr

/-- The events of a document, with their places in the text, and for each number of an
anchor the index of an event; the last entry for a number counts. -/
structure Document where
  events : Array (Event × Mark) := #[]
  targets : List (Nat × Nat) := []
  /-- Why there are no more events, if the document did not come to its end. -/
  fault : Option Fault := none

/-- A document being built. -/
structure Builder where
  layout : Layout
  document : Document := {}
  /-- The numbers of the names that have been anchored. -/
  anchors : List (String × Nat) := []
  /-- What the handles of tags stand for. -/
  handles : List (String × List UInt8) := []

/-- A step of building a document; what was built before a fault is kept. -/
abbrev Build := ExceptT Fault (StateM Builder)

namespace Build

/-- A fault at the place reached. -/
def fail {α : Type} (problem : Problem) : Build α := do
  throw (.located problem (← get).layout.cursor.mark)

/-- The next token. -/
def peek : Build Token := do
  match (← get).layout.peek with
  | .ok (token, layout) =>
    modify fun b => { b with layout }
    return token
  | .error fault => throw fault

/-- Gives the next token away. -/
def drop : Build Unit :=
  modify fun b => { b with layout := b.layout.drop }

/-- Adds an event. -/
def emit (event : Event) : Build Unit :=
  modify fun b =>
    let events := b.document.events.push (event, b.layout.cursor.mark)
    { b with document := { b.document with events } }

/-- Adds an event of a node, with its anchor. -/
def emitNode (anchor : Option String) (event : Event) : Build Unit := do
  if let some name := anchor then
    modify fun b =>
      let number := b.anchors.length
      let anchors :=
        if b.anchors.any (·.1 == name) then
          b.anchors.map fun entry => if entry.1 == name then (name, number) else entry
        else b.anchors ++ [(name, number)]
      let targets := b.document.targets ++ [(number, b.document.events.size)]
      { b with anchors, document := { b.document with targets } }
  emit event

/-- Adds a use of an anchored node. -/
def emitReference (name : String) : Build Unit := do
  match (← get).anchors.lookup name with
  | some number => emit (.reference number)
  | none => fail .unknownAnchor

/-- Adds the scalar that stands where nothing was written. -/
def emitEmpty : Build Unit :=
  emit (.scalar none "" true)

/-! ### Properties of nodes -/

/-- Takes the anchor and the tag of a node, in either order. -/
def properties : Build (Option String × Option (String × List UInt8)) := do
  match ← peek with
  | .anchor name =>
    drop
    match ← peek with
    | .tag handle suffix =>
      drop
      return (some name, some (handle, suffix))
    | _ => return (some name, none)
  | .tag handle suffix =>
    drop
    match ← peek with
    | .anchor name =>
      drop
      return (some name, some (handle, suffix))
    | _ => return (none, some (handle, suffix))
  | _ => return (none, none)

/-- The bytes of a whole tag. -/
def fullTag : Option (String × List UInt8) → Build (Option (List UInt8))
  | none => return none
  | some (handle, suffix) => do
    if handle.isEmpty then return some suffix
    else
      match (← get).handles.lookup handle with
      | some replacement => return some (replacement ++ suffix)
      | none => fail .undefinedHandle

/-! ### Nodes -/

/-- Whether nothing was written before this token in a block mapping. -/
def endsBlockPart : Token → Bool
  | .key | .value | .blockEnd => true
  | _ => false

/-- Whether nothing was written before this token in a block sequence. -/
def endsBlockItem : Token → Bool
  | .blockEntry | .blockEnd => true
  | _ => false

mutual

/-- Takes a node.  Block collections are allowed in blocks only, and a sequence at the
indentation of its mapping only as a part of that mapping. -/
def node : Nat → Bool → Bool → Build Unit
  | 0, _, _ => fail .tooDeep
  | fuel + 1, block, indentless => do
    match ← peek with
    | .reference name =>
      drop
      emitReference name
    | _ =>
      let (anchor, parts) ← properties
      let tag ← fullTag parts
      match ← peek with
      | .scalar text plain =>
        drop
        emitNode anchor (.scalar tag text plain)
      | .flowSequenceStart =>
        drop
        emitNode anchor (.sequenceStart tag)
        flowItems fuel true
      | .flowMappingStart =>
        drop
        emitNode anchor (.mappingStart tag)
        flowPairs fuel true
      | token =>
        if indentless && token == .blockEntry then
          emitNode anchor (.sequenceStart tag)
          indentlessItems fuel
        else if block && token == .blockSequenceStart then
          drop
          emitNode anchor (.sequenceStart tag)
          blockItems fuel
        else if block && token == .blockMappingStart then
          drop
          emitNode anchor (.mappingStart tag)
          blockPairs fuel
        else if anchor.isSome || tag.isSome then emitNode anchor (.scalar tag "" true)
        else fail .unexpectedToken

/-- Takes the items of a block sequence and its end. -/
def blockItems : Nat → Build Unit
  | 0 => fail .tooDeep
  | fuel + 1 => do
    match ← peek with
    | .blockEntry =>
      drop
      if endsBlockItem (← peek) then emitEmpty else node fuel true false
      blockItems fuel
    | .blockEnd =>
      drop
      emit .sequenceEnd
    | _ => fail .unexpectedToken

/-- Takes the items of a sequence at the indentation of its mapping, which has no end of
its own. -/
def indentlessItems : Nat → Build Unit
  | 0 => fail .tooDeep
  | fuel + 1 => do
    match ← peek with
    | .blockEntry =>
      drop
      let token ← peek
      if token == .blockEntry || endsBlockPart token then emitEmpty else node fuel true false
      indentlessItems fuel
    | _ => emit .sequenceEnd

/-- Takes the keys and values of a block mapping and its end. -/
def blockPairs : Nat → Build Unit
  | 0 => fail .tooDeep
  | fuel + 1 => do
    match ← peek with
    | .key =>
      drop
      if endsBlockPart (← peek) then emitEmpty else node fuel true true
      blockValue fuel
    | .blockEnd =>
      drop
      emit .mappingEnd
    | _ => fail .unexpectedToken

/-- Takes the value of a block mapping, and goes on with the mapping. -/
def blockValue : Nat → Build Unit
  | 0 => fail .tooDeep
  | fuel + 1 => do
    match ← peek with
    | .value =>
      drop
      if endsBlockPart (← peek) then emitEmpty else node fuel true true
    | _ => emitEmpty
    blockPairs fuel

/-- Takes the items of a flow sequence and its end.  An item that is a pair becomes a
mapping of its own. -/
def flowItems : Nat → Bool → Build Unit
  | 0, _ => fail .tooDeep
  | fuel + 1, first => do
    let token ← peek
    if token == .flowSequenceEnd then
      drop
      emit .sequenceEnd
    else
      if !first then
        if token == .flowEntry then drop else fail .unexpectedToken
      match ← peek with
      | .key =>
        drop
        emit (.mappingStart none)
        flowPair fuel
        flowItems fuel false
      | .flowSequenceEnd =>
        drop
        emit .sequenceEnd
      | _ =>
        node fuel false false
        flowItems fuel false

/-- Takes the pair that is an item of a flow sequence.  Where the key is empty, the token
in its place is passed over. -/
def flowPair : Nat → Build Unit
  | 0 => fail .tooDeep
  | fuel + 1 => do
    match ← peek with
    | .value | .flowEntry | .flowSequenceEnd =>
      drop
      emitEmpty
    | _ => node fuel false false
    match ← peek with
    | .value =>
      drop
      match ← peek with
      | .flowEntry | .flowSequenceEnd => emitEmpty
      | _ => node fuel false false
    | _ => emitEmpty
    emit .mappingEnd

/-- Takes the keys and values of a flow mapping and its end. -/
def flowPairs : Nat → Bool → Build Unit
  | 0, _ => fail .tooDeep
  | fuel + 1, first => do
    let token ← peek
    if token == .flowMappingEnd then
      drop
      emit .mappingEnd
    else
      if !first then
        if token == .flowEntry then drop else fail .unexpectedToken
      match ← peek with
      | .key =>
        drop
        match ← peek with
        | .value | .flowEntry | .flowMappingEnd => emitEmpty
        | _ => node fuel false false
        flowValue fuel
        flowPairs fuel false
      | .flowMappingEnd =>
        drop
        emit .mappingEnd
      | _ =>
        node fuel false false
        let _ ← peek
        emitEmpty
        flowPairs fuel false

/-- Takes the value of a flow mapping. -/
def flowValue : Nat → Build Unit
  | 0 => fail .tooDeep
  | fuel + 1 => do
    match ← peek with
    | .value =>
      drop
      match ← peek with
      | .flowEntry | .flowMappingEnd => emitEmpty
      | _ => node fuel false false
    | _ => emitEmpty

end

/-! ### Documents -/

/-- Declares what a handle stands for. -/
def declare (handle : String) (replacement : List UInt8) : Build Unit :=
  modify fun b => { b with handles := b.handles ++ [(handle, replacement)] }

/-- Takes the directives of a document; a version comes once, and so does each handle. -/
def directives : Nat → Bool → Build Unit
  | 0, _ => fail .badDirective
  | fuel + 1, versioned => do
    match ← peek with
    | .versionDirective major minor =>
      if versioned || major != 1 || (minor != 1 && minor != 2) then fail .badDirective
      drop
      directives fuel true
    | .tagDirective handle replacement =>
      if (← get).handles.any (·.1 == handle) then fail .badDirective
      drop
      declare handle replacement
      directives fuel versioned
    | _ =>
      declare "!" bareTag
      declare "!!" (Text.encode "tag:yaml.org,2002:")

/-- Whether a document that was started has no node. -/
def endsContent : Token → Bool
  | .versionDirective .. | .tagDirective .. | .documentStart | .documentEnd | .streamEnd => true
  | _ => false

/-- Takes the first document of a text, with its end marker. -/
def document (fuel : Nat) : Build Unit := do
  drop
  match ← peek with
  | .streamEnd => emit .void
  | .versionDirective .. | .tagDirective .. | .documentStart =>
    directives fuel false
    if (← peek) != .documentStart then fail .unexpectedToken
    drop
    if endsContent (← peek) then emitEmpty else node fuel true false
    closing
  | _ =>
    directives fuel false
    node fuel true false
    closing
where
  /-- Looks past the document for its end marker. -/
  closing : Build Unit := do
    if (← peek) == .documentEnd then drop

end Build

namespace Layout

/-- Whether nothing but end markers is left of the text. -/
def isOver : Nat → Layout → Bool
  | 0, _ => false
  | fuel + 1, l =>
    match l.peek with
    | .ok (.streamEnd, _) => true
    | .ok (.documentEnd, l) => isOver fuel l.drop
    | _ => false

end Layout

/-- The first document of a text, and the layout behind it. -/
def firstDocument (text : String) : Document × Layout :=
  let cs := text.toList
  let fuel := 10 * (cs.length + 10)
  match (Build.document fuel).run.run { layout := .start cs } with
  | (.ok (), b) => (b.document, b.layout)
  | (.error fault, b) => ({ b.document with fault := some fault }, b.layout)

end Adventure.Yaml

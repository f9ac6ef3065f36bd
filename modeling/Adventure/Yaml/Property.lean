/-
Anchors, tags and directives.

These are the tokens about nodes and documents.  A tag is a handle, which a directive may
have declared, and a suffix; a suffix may hold bytes escaped with a percent sign.  These
have to come in groups of the lengths that characters have in UTF-8, but need not spell
characters, and a zero byte ends the suffix early.  So suffixes are bytes.
-/
import Adventure.Text.Hex
import Adventure.Yaml.Fault
import Adventure.Yaml.Token

namespace Adventure.Yaml

/-! ### Anchors -/

/-- Whether the name of an anchor may end before a character. -/
def endsAnchor (c : Option Char) : Bool :=
  isBlankOrEnd c || c.any fun char => "?:,]\x7d%@`".toList.contains char

/-- Takes the name of an anchor after its indicator. -/
def anchorName (c : Cursor) : Except Fault (String × Cursor) :=
  let (name, c) := (c.skip 1).takeWhile isNameChar
  if name.isEmpty || !endsAnchor c.peek then c.fail .badAnchor
  else .ok (String.ofList name, c)

/-! ### Tags -/

/-- A character that a tag may hold; brackets and the comma only where it is delimited. -/
def isTagChar (delimited : Bool) (c : Char) : Bool :=
  isNameChar c || ";/?:@&=+$.%!~*'()".toList.contains c
    || (delimited && (c == ',' || c == '[' || c == ']'))

/-- How many bytes follow the first byte of a character. -/
def followers? (byte : Nat) : Option Nat :=
  if byte < 0x80 then some 0
  else if 0xC0 ≤ byte ∧ byte < 0xE0 then some 1
  else if 0xE0 ≤ byte ∧ byte < 0xF0 then some 2
  else if 0xF0 ≤ byte ∧ byte < 0xF8 then some 3
  else none

/-- How many more bytes are due after a byte, if so many are due before it; none where the
byte cannot stand there. -/
def stillDue? (due byte : Nat) : Option Nat :=
  if due = 0 then followers? byte
  else if 0x80 ≤ byte ∧ byte < 0xC0 then some (due - 1)
  else none

/-- The bytes of tag characters, percent escapes resolved, if so many escapes are due to
complete a group; none where an escape is badly written. -/
def tagBytes? : Nat → List Char → Option (List UInt8)
  | due, [] => if due = 0 then some [] else none
  | due, '%' :: a :: b :: rest => do
    let byte ← Text.hexNumber? [a, b]
    return byte.toUInt8 :: (← tagBytes? (← stillDue? due byte) rest)
  | due, c :: rest => do
    guard (due = 0 ∧ c ≠ '%')
    return c.toNat.toUInt8 :: (← tagBytes? 0 rest)

/-- The bytes of characters up to the first zero byte. -/
def tagText? (cs : List Char) : Option (List UInt8) :=
  (tagBytes? 0 cs).map fun bytes => bytes.takeWhile (· != 0)

/-- Takes the characters of a tag; `lead` counts as part of it. -/
def tagSuffix (delimited : Bool) (lead : List Char) (c : Cursor) :
    Except Fault (List UInt8 × Cursor) :=
  let (taken, c) := c.takeWhile (isTagChar delimited)
  if lead.isEmpty && taken.isEmpty then c.fail .badTag
  else
    match tagText? (lead.drop 1 ++ taken) with
    | some text => .ok (text, c)
    | none => c.fail .badTag

/-- The tag that says nothing but that it is a tag. -/
def bareTag : List UInt8 :=
  [0x21]

/-- Takes a handle: an exclamation mark, a name, and a second mark if there is one. -/
def tagHandle (c : Cursor) : Except Fault (List Char × Cursor) :=
  if !c.at? '!' then c.fail .badTag
  else
    let (name, c) := (c.skip 1).takeWhile isNameChar
    if c.at? '!' then .ok ('!' :: name ++ ['!'], c.skip 1)
    else .ok ('!' :: name, c)

/-- Takes the parts of a tag, from its first character. -/
def tagParts (c : Cursor) : Except Fault (Token × Cursor) :=
  if c.peekAt 1 == some '<' then do
    let (suffix, c) ← tagSuffix true [] (c.skip 2)
    if c.at? '>' then return (.tag "" suffix, c.skip 1) else c.fail .badTag
  else do
    let (handle, c) ← tagHandle c
    if handle.length > 1 && handle.getLast? == some '!' then
      let (suffix, c) ← tagSuffix false [] c
      return (.tag (String.ofList handle) suffix, c)
    else
      let (suffix, c) ← tagSuffix false handle c
      return (if suffix.isEmpty then .tag "" bareTag else .tag "!" suffix, c)

/-- Takes a tag. -/
def takeTag (flow : Bool) (c : Cursor) : Except Fault (Token × Cursor) := do
  let (token, c) ← tagParts c
  if isBlankOrEnd c.peek || (flow && c.at? ',') then return (token, c)
  else c.fail .badTag

/-! ### Directives -/

/-- Takes a number of at most nine digits. -/
def versionNumber (c : Cursor) : Except Fault (Nat × Cursor) :=
  let (digits, c) := c.takeWhile Char.isDigit
  if digits.isEmpty || digits.length > 9 then c.fail .badDirective
  else .ok (digits.foldl (fun n d => 10 * n + (d.toNat - '0'.toNat)) 0, c)

/-- Takes the version that a directive declares. -/
def versionValue (c : Cursor) : Except Fault (Token × Cursor) := do
  let (major, c) ← versionNumber (c.skipWhile isBlank)
  if !c.at? '.' then c.fail .badDirective
  else
    let (minor, c) ← versionNumber (c.skip 1)
    return (.versionDirective major minor, c)

/-- Takes the handle that a directive declares and what it stands for. -/
def tagValue (c : Cursor) : Except Fault (Token × Cursor) := do
  let (handle, c) ← tagHandle (c.skipWhile isBlank)
  if (handle.length > 1 && handle.getLast? != some '!') || !c.peek.any isBlank then
    c.fail .badDirective
  else
    let (replacement, c) ← tagSuffix true [] (c.skipWhile isBlank)
    if isBlankOrEnd c.peek then return (.tagDirective (String.ofList handle) replacement, c)
    else c.fail .badDirective

/-- Takes a directive with its line. -/
def takeDirective (c : Cursor) : Except Fault (Token × Cursor) := do
  let (name, c) := (c.skip 1).takeWhile isNameChar
  if name.isEmpty || !isBlankOrEnd c.peek then c.fail .badDirective
  else
    let (token, c) ←
      if name == "YAML".toList then versionValue c
      else if name == "TAG".toList then tagValue c
      else c.fail .badDirective
    let c := c.skipWhile isBlank
    let c := if c.at? '#' then c.skipToBreak else c
    if isBreakOrEnd c.peek then return (token, c.takeBreak.2) else c.fail .badDirective

end Adventure.Yaml

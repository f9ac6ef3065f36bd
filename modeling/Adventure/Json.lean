/-
JSON values and their compact text.

A string literal is kept as it is written between its quotes, since a literal may be
well formed and still spell no text: half of a surrogate pair is such a literal.  Its
text is read off where it is wanted.  Numbers, too, are kept as written.
-/
import Adventure.Text.Hex

namespace Adventure

/-- A JSON value. -/
inductive Json where
  | null
  | bool (value : Bool)
  /-- A number as written. -/
  | number (literal : List Char)
  /-- A string as written between its quotes. -/
  | string (literal : List Char)
  | array (items : List Json)
  /-- Keys, as written between their quotes, and values, in order. -/
  | object (fields : List (List Char × Json))

namespace Json

/-! ### String literals -/

/-- How one character is written in a literal: quote and backslash get a backslash,
characters below the space are written as escapes, and all others stand for
themselves. -/
def escapeChar (c : Char) : List Char :=
  if c = '"' then ['\\', '"']
  else if c = '\\' then ['\\', '\\']
  else if c.toNat = 0x08 then ['\\', 'b']
  else if c.toNat = 0x09 then ['\\', 't']
  else if c.toNat = 0x0A then ['\\', 'n']
  else if c.toNat = 0x0C then ['\\', 'f']
  else if c.toNat = 0x0D then ['\\', 'r']
  else if c.toNat < 0x20 then
    ['\\', 'u', '0', '0', Nat.digitChar (c.toNat / 16), Nat.digitChar (c.toNat % 16)]
  else [c]

/-- The literal of a text. -/
def escape (text : String) : List Char :=
  text.toList.flatMap escapeChar

/-- The character that a one-letter escape stands for. -/
def escaped? (c : Char) : Option Char :=
  if c = '"' then some '"'
  else if c = '\\' then some '\\'
  else if c = '/' then some '/'
  else if c = 'b' then some (Char.ofNat 0x08)
  else if c = 'f' then some (Char.ofNat 0x0C)
  else if c = 'n' then some (Char.ofNat 0x0A)
  else if c = 'r' then some (Char.ofNat 0x0D)
  else if c = 't' then some (Char.ofNat 0x09)
  else none

/-- Whether a code unit is the first half of a surrogate pair. -/
def isHighSurrogate (n : Nat) : Bool :=
  0xD800 ≤ n && n < 0xDC00

/-- Whether a code unit is the second half of a surrogate pair. -/
def isLowSurrogate (n : Nat) : Bool :=
  0xDC00 ≤ n && n < 0xE000

/-- The text of a literal, character by character; none where an escape is unknown or
half of a surrogate pair stands alone. -/
def unescapeChars : List Char → Option (List Char)
  | [] => some []
  | '\\' :: 'u' :: a :: b :: c :: d :: '\\' :: 'u' :: e :: f :: g :: h :: rest => do
    let first ← Text.hexNumber? [a, b, c, d]
    if isHighSurrogate first then
      let second ← Text.hexNumber? [e, f, g, h]
      guard (isLowSurrogate second)
      let code := 0x10000 + (first - 0xD800) * 0x400 + (second - 0xDC00)
      return Char.ofNat code :: (← unescapeChars rest)
    else
      guard (!isLowSurrogate first)
      return Char.ofNat first :: (← unescapeChars ('\\' :: 'u' :: e :: f :: g :: h :: rest))
  | '\\' :: 'u' :: a :: b :: c :: d :: rest => do
    let code ← Text.hexNumber? [a, b, c, d]
    guard (!isHighSurrogate code && !isLowSurrogate code)
    return Char.ofNat code :: (← unescapeChars rest)
  | '\\' :: c :: rest => do
    return (← escaped? c) :: (← unescapeChars rest)
  | c :: rest => do
    guard (c != '\\')
    return c :: (← unescapeChars rest)

/-- The text of a literal. -/
def unescape? (literal : List Char) : Option String :=
  (unescapeChars literal).map String.ofList

/-- The string value of a text. -/
def ofText (text : String) : Json :=
  .string (escape text)

/-- The number value of a natural number. -/
def ofNat (n : Nat) : Json :=
  .number (Nat.toDigits 10 n)

/-! ### Writing -/

mutual

/-- The compact text of a value. -/
def write : Json → List Char
  | .null => ['n', 'u', 'l', 'l']
  | .bool true => ['t', 'r', 'u', 'e']
  | .bool false => ['f', 'a', 'l', 's', 'e']
  | .number literal => literal
  | .string literal => '"' :: literal ++ ['"']
  | .array items => '[' :: writeItems items ++ [']']
  | .object fields => '\x7b' :: writeFields fields ++ ['\x7d']

/-- The items of an array with commas between them. -/
def writeItems : List Json → List Char
  | [] => []
  | [item] => item.write
  | item :: rest => item.write ++ ',' :: writeItems rest

/-- The fields of an object with commas between them. -/
def writeFields : List (List Char × Json) → List Char
  | [] => []
  | [(key, value)] => '"' :: key ++ '"' :: ':' :: value.write
  | (key, value) :: rest => '"' :: key ++ '"' :: ':' :: value.write ++ ',' :: writeFields rest

end

/-- The compact text of a value, as a string. -/
def render (j : Json) : String :=
  String.ofList j.write

end Json

end Adventure

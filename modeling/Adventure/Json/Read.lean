/-
Reading JSON text.

A reader takes a value off the front of the remaining characters.  Nesting is counted
by fuel, of which a text has as much as it could ever need: every two steps of the
reader take at least one character away.
-/
import Adventure.Json

namespace Adventure.Json

/-- White space between the tokens of JSON text. -/
def isSpace (c : Char) : Bool :=
  c == ' ' || c == '\n' || c == '\t' || c == '\r'

/-- The text after white space. -/
def skipSpace (cs : List Char) : List Char :=
  cs.dropWhile isSpace

/-- Takes a fixed word off the front. -/
def word? (word : List Char) (cs : List Char) : Option (List Char) :=
  if word.isPrefixOf cs then some (cs.drop word.length) else none

/-- Takes the rest of a string literal, after its opening quote, up to and with the
closing quote; escapes are only checked for their shape. -/
def literal? : List Char → Option (List Char × List Char)
  | [] => none
  | '"' :: rest => some ([], rest)
  | '\\' :: 'u' :: a :: b :: c :: d :: rest => do
    let _ ← Text.hexNumber? [a, b, c, d]
    let (body, rest) ← literal? rest
    return ('\\' :: 'u' :: a :: b :: c :: d :: body, rest)
  | '\\' :: c :: rest => do
    let _ ← escaped? c
    let (body, rest) ← literal? rest
    return ('\\' :: c :: body, rest)
  | c :: rest => do
    guard (c != '\\' && 0x20 ≤ c.toNat)
    let (body, rest) ← literal? rest
    return (c :: body, rest)

/-- Takes one digit or more. -/
def digits? (cs : List Char) : Option (List Char × List Char) :=
  if (cs.takeWhile Char.isDigit).isEmpty then none
  else some (cs.takeWhile Char.isDigit, cs.dropWhile Char.isDigit)

/-- Takes the whole part of a number, which has no leading zero. -/
def whole? (cs : List Char) : Option (List Char × List Char) := do
  let (digits, rest) ← digits? cs
  guard (digits.length == 1 || digits.head? != some '0')
  return (digits, rest)

/-- Takes the fraction of a number, if there is one. -/
def fraction? : List Char → Option (List Char × List Char)
  | '.' :: rest => do
    let (digits, rest) ← digits? rest
    return ('.' :: digits, rest)
  | rest => some ([], rest)

/-- Takes the exponent of a number, if there is one. -/
def exponent? : List Char → Option (List Char × List Char)
  | [] => some ([], [])
  | mark :: rest =>
    if mark == 'e' || mark == 'E' then
      match rest with
      | [] => none
      | sign :: rest' =>
        if sign == '+' || sign == '-' then do
          let (digits, rest) ← digits? rest'
          return (mark :: sign :: digits, rest)
        else do
          let (digits, rest) ← digits? rest
          return (mark :: digits, rest)
    else some ([], mark :: rest)

/-- Takes a number without its sign. -/
def unsigned? (cs : List Char) : Option (List Char × List Char) := do
  let (whole, rest) ← whole? cs
  let (fraction, rest) ← fraction? rest
  let (exponent, rest) ← exponent? rest
  return (whole ++ fraction ++ exponent, rest)

/-- Takes a number. -/
def number? : List Char → Option (List Char × List Char)
  | '-' :: rest => do
    let (literal, rest) ← unsigned? rest
    return ('-' :: literal, rest)
  | cs => unsigned? cs

mutual

/-- Takes a value, with white space before it. -/
def value? : Nat → List Char → Option (Json × List Char)
  | 0, _ => none
  | fuel + 1, cs =>
    match skipSpace cs with
    | [] => none
    | 'n' :: rest => do return (.null, ← word? ['u', 'l', 'l'] rest)
    | 't' :: rest => do return (.bool true, ← word? ['r', 'u', 'e'] rest)
    | 'f' :: rest => do return (.bool false, ← word? ['a', 'l', 's', 'e'] rest)
    | '"' :: rest => do
      let (literal, rest) ← literal? rest
      return (.string literal, rest)
    | '[' :: rest =>
      match skipSpace rest with
      | ']' :: rest => some (.array [], rest)
      | rest => do
        let (items, rest) ← items? fuel rest
        return (.array items, rest)
    | '\x7b' :: rest =>
      match skipSpace rest with
      | '\x7d' :: rest => some (.object [], rest)
      | rest => do
        let (fields, rest) ← fields? fuel rest
        return (.object fields, rest)
    | rest => do
      let (literal, rest) ← number? rest
      return (.number literal, rest)

/-- Takes one item or more, with the closing bracket. -/
def items? : Nat → List Char → Option (List Json × List Char)
  | 0, _ => none
  | fuel + 1, cs => do
    let (item, rest) ← value? fuel cs
    match skipSpace rest with
    | ']' :: rest => return ([item], rest)
    | ',' :: rest =>
      let (items, rest) ← items? fuel rest
      return (item :: items, rest)
    | _ => none

/-- Takes one field or more, with the closing brace. -/
def fields? : Nat → List Char → Option (List (List Char × Json) × List Char)
  | 0, _ => none
  | fuel + 1, cs =>
    match skipSpace cs with
    | '"' :: rest => do
      let (key, rest) ← literal? rest
      match skipSpace rest with
      | ':' :: rest =>
        let (value, rest) ← value? fuel rest
        match skipSpace rest with
        | '\x7d' :: rest => return ([(key, value)], rest)
        | ',' :: rest =>
          let (fields, rest) ← fields? fuel rest
          return ((key, value) :: fields, rest)
        | _ => none
      | _ => none
    | _ => none

end

/-- Reads a text that holds one value and white space. -/
def read? (text : String) : Option Json := do
  let cs := text.toList
  let (value, rest) ← value? (2 * cs.length + 2) cs
  guard (skipSpace rest).isEmpty
  return value

end Adventure.Json

/-
Commands as JSON.

A command is an object with one field for each of its parts, in a fixed order, absent
parts as null.  Reading takes the fields in any order, passes over fields it does not
know, and takes a missing optional part for an absent one; a known field that comes twice
is refused.  A record may also be written as the array of all its parts, and an action as
an object with the action as its one key and null beside it.
-/
import Adventure.Command
import Adventure.Json.Read

namespace Adventure

namespace Json

/-- The text of a string value. -/
def text? : Json → Option String
  | .string literal => unescape? literal
  | _ => none

/-- An optional text: null is absent. -/
def optionalText? : Json → Option (Option String)
  | .null => some none
  | j => j.text?.map some

/-- The natural number that digits spell. -/
def digitsValue (cs : List Char) : Nat :=
  cs.foldl (fun n c => 10 * n + (c.toNat - '0'.toNat)) 0

/-- A natural number that fits in 64 bits, written without sign, fraction or
exponent. -/
def word64? : Json → Option Nat
  | .number literal => do
    guard (literal.all Char.isDigit)
    guard (digitsValue literal ≤ 0xFFFFFFFFFFFFFFFF)
    return digitsValue literal
  | _ => none

/-- Object fields by the text of their keys; none where a key spells no text. -/
def namedFields? (fields : List (List Char × Json)) : Option (List (String × Json)) :=
  fields.mapM fun (key, value) => do return (← unescape? key, value)

/-- The value of a field, if there is one; refused if there are more. -/
def field? (name : String) (fields : List (String × Json)) : Option (Option Json) :=
  match fields.filter fun field => field.1 == name with
  | [] => some none
  | [(_, value)] => some (some value)
  | _ => none

/-- The values of named fields, in the order of the names. -/
def record? (names : List String) : Json → Option (List (Option Json))
  | .object fields => do
    let fields ← namedFields? fields
    names.mapM fun name => field? name fields
  | .array items => do
    guard (items.length == names.length)
    return items.map some
  | _ => none

end Json

namespace ParseError

/-- The parts of an error, in the order in which they are written. -/
def fieldNames : List String :=
  ["message", "column", "input"]

/-- An error as JSON. -/
def toJson (e : ParseError) : Json :=
  .object
    [("message".toList, .ofText e.message), ("column".toList, .ofNat e.column),
     ("input".toList, .ofText e.input)]

/-- Reads an error. -/
def ofJson? (j : Json) : Option ParseError := do
  match ← j.record? fieldNames with
  | [some message, some column, some input] =>
    return ⟨← message.text?, ← column.word64?, ← input.text?⟩
  | _ => none

end ParseError

namespace Action

/-- An action as JSON. -/
def toJson (a : Action) : Json :=
  .ofText a.label

/-- Reads an action. -/
def ofJson? : Json → Option Action
  | .string literal => do ofLabel? (← Json.unescape? literal)
  | .object [(key, .null)] => do ofLabel? (← Json.unescape? key)
  | _ => none

end Action

namespace Command

/-- The parts of a command, in the order in which they are written. -/
def fieldNames : List String :=
  ["action", "argument", "target", "preposition", "object", "error"]

/-- An optional part as JSON. -/
def optionalJson {α : Type} (toJson : α → Json) : Option α → Json
  | some a => toJson a
  | none => .null

/-- A command as JSON. -/
def toJson (c : Command) : Json :=
  .object
    [("action".toList, c.action.toJson), ("argument".toList, .ofText c.argument),
     ("target".toList, .ofText c.target),
     ("preposition".toList, optionalJson .ofText c.preposition),
     ("object".toList, optionalJson .ofText c.object),
     ("error".toList, optionalJson ParseError.toJson c.error)]

/-- An optional error: null is absent. -/
def optionalError? : Json → Option (Option ParseError)
  | .null => some none
  | j => (ParseError.ofJson? j).map some

/-- Reads a command. -/
def ofJson? (j : Json) : Option Command := do
  match ← j.record? fieldNames with
  | [some action, some argument, some target, preposition, object, error] =>
    return {
      action := ← Action.ofJson? action
      argument := ← argument.text?
      target := ← target.text?
      preposition := ← (preposition.getD .null).optionalText?
      object := ← (object.getD .null).optionalText?
      error := ← optionalError? (error.getD .null) }
  | _ => none

/-- The JSON text of a command. -/
def render (c : Command) : String :=
  c.toJson.render

/-- Reads the JSON text of a command. -/
def read? (text : String) : Option Command := do
  ofJson? (← Json.read? text)

end Command

end Adventure

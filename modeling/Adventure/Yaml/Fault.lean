/-
Why a YAML text has no value.

Most faults have a place in the text.  Two do not: that aliases repeat their nodes beyond
all measure, and that the text holds more than one document.
-/
import Adventure.Yaml.Cursor

namespace Adventure.Yaml

/-- What is wrong at a place. -/
inductive Problem where
  /-- A character that no text may hold. -/
  | controlCharacter
  /-- A character that starts no token. -/
  | noTokenStart
  /-- A candidate for a key that had to be one and was not. -/
  | keyWithoutColon
  /-- An entry, key or value where none may start. -/
  | notAllowedHere
  /-- A tab where the indentation is counted. -/
  | tabInIndentation
  /-- A directive that is unknown or badly written. -/
  | badDirective
  /-- An anchor or alias without a proper name. -/
  | badAnchor
  /-- A tag that is badly written. -/
  | badTag
  /-- A tag whose handle was not declared. -/
  | undefinedHandle
  /-- A header of a block scalar that is badly written. -/
  | badBlockHeader
  /-- A document marker or the end inside quotes. -/
  | unclosedQuote
  /-- An unknown or badly written escape. -/
  | badEscape
  /-- A colon inside a plain scalar of a flow collection. -/
  | unexpectedColon
  /-- A token that does not fit. -/
  | unexpectedToken
  /-- An alias of no anchor. -/
  | unknownAnchor
  /-- A scalar that is not what its tag says. -/
  | notOfTag
  /-- An integer that is too large. -/
  | integerTooLarge
  /-- A key that a mapping already has. -/
  | duplicateKey
  /-- Too many collections inside one another. -/
  | tooDeep
  deriving DecidableEq, Repr

namespace Problem

/-- The problem in words. -/
def message : Problem → String
  | controlCharacter => "control characters are not allowed"
  | noTokenStart => "found character that cannot start any token"
  | keyWithoutColon => "could not find expected ':'"
  | notAllowedHere => "entries, keys and values are not allowed in this context"
  | tabInIndentation => "found a tab character where indentation is expected"
  | badDirective => "found a directive that cannot be read"
  | badAnchor => "did not find expected name of an anchor"
  | badTag => "did not find expected tag"
  | undefinedHandle => "found undefined tag handle"
  | badBlockHeader => "did not find expected comment or line break"
  | unclosedQuote => "found unexpected end of a quoted scalar"
  | badEscape => "found unknown escape"
  | unexpectedColon => "found unexpected ':'"
  | unexpectedToken => "found unexpected token"
  | unknownAnchor => "unknown anchor"
  | notOfTag => "invalid value for its tag"
  | integerTooLarge => "integer out of range"
  | duplicateKey => "duplicate entry"
  | tooDeep => "recursion limit exceeded"

end Problem

/-- Why a text has no value. -/
inductive Fault where
  | located (problem : Problem) (mark : Mark)
  | repetition
  | moreThanOneDocument
  deriving DecidableEq, Repr

namespace Fault

/-- The place of the fault, if it has one. -/
def mark? : Fault → Option Mark
  | located _ mark => some mark
  | _ => none

/-- The fault in words; lines and columns count from one. -/
def message : Fault → String
  | located problem mark =>
    s!"{problem.message} at line {mark.line + 1} column {mark.column + 1}"
  | repetition => "repetition limit exceeded"
  | moreThanOneDocument =>
    "deserializing from YAML containing more than one document is not supported"

end Fault

/-- A fault at the place of a cursor. -/
def Cursor.fail {α : Type} (c : Cursor) (problem : Problem) : Except Fault α :=
  .error (.located problem c.mark)

end Adventure.Yaml

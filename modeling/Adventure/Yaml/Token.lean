/-
Tokens of YAML text.

Indentation is turned into tokens, so that block collections are bracketed as flow
collections are: a block collection has a start token, and `blockEnd` closes it.
-/

namespace Adventure.Yaml

/-- A token. -/
inductive Token where
  | streamStart
  | streamEnd
  | versionDirective (major minor : Nat)
  | tagDirective (handle : String) (replacement : List UInt8)
  | documentStart
  | documentEnd
  | blockSequenceStart
  | blockMappingStart
  | blockEnd
  | flowSequenceStart
  | flowSequenceEnd
  | flowMappingStart
  | flowMappingEnd
  | blockEntry
  | flowEntry
  | key
  | value
  /-- A use of an anchored node. -/
  | reference (name : String)
  | anchor (name : String)
  /-- A tag; its suffix is bytes, because escapes need not spell text. -/
  | tag (handle : String) (suffix : List UInt8)
  /-- A scalar, plain or with quotes or a block header. -/
  | scalar (text : String) (plain : Bool)
  deriving DecidableEq, Repr

end Adventure.Yaml

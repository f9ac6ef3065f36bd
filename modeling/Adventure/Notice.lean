/-
What the library reports while it works.

A notice says that something happened; how it reads (its level, its text and its named
fields) is decided here and nowhere else.
-/
import Adventure.Node

namespace Adventure

/-- How much a notice matters. -/
inductive Level where
  | debug
  | info
  | warn
  deriving DecidableEq, Repr

namespace Level

/-- The name of a level. -/
def name : Level → String
  | debug => "DEBUG"
  | info => "INFO"
  | warn => "WARN"

end Level

/-- The value of a field of a notice. -/
inductive Field where
  | text (value : String)
  | count (value : Nat)
  deriving DecidableEq, Repr

/-- Something that happened. -/
inductive Notice where
  /-- A line was understood. -/
  | compiled (action : Action) (target : String)
  /-- A line broke the rule of its verb. -/
  | rejected (message : String) (column : Nat)
  /-- A line was not understood. -/
  | unrecognized (input : String)
  /-- Aliases replaced those an interpreter had. -/
  | overlayInstalled (aliases : Nat)
  /-- A session starts with aliases. -/
  | vocabularyExtended (aliases : Nat)
  /-- An alias document could not be read. -/
  | documentIgnored
  /-- An alias file could not be read. -/
  | fileIgnored (path : String)
  /-- A list item is not an alias entry. -/
  | entryMalformed
  /-- A side of an entry is not a scalar. -/
  | entryNotScalar
  /-- The canonical side of an entry names nothing. -/
  | canonicalUnknown (word canonical : String)
  /-- The alias of an entry is blank. -/
  | aliasBlank (canonical : String)
  /-- A meta command was given. -/
  | metaCommand (command : String)
  deriving DecidableEq, Repr

namespace Notice

/-- The level of a notice. -/
def level : Notice → Level
  | compiled .. | rejected .. | unrecognized .. | metaCommand .. => .debug
  | overlayInstalled .. | vocabularyExtended .. => .info
  | _ => .warn

/-- The text of a notice. -/
def message : Notice → String
  | compiled .. => "compiled command"
  | rejected .. => "rejected command"
  | unrecognized .. => "unrecognized command"
  | overlayInstalled .. => "installing keyword overlay"
  | vocabularyExtended .. => "session vocabulary extended"
  | documentIgnored => "ignoring alias configuration"
  | fileIgnored .. => "ignoring alias file"
  | entryMalformed => "dropping malformed alias entry"
  | entryNotScalar => "dropping alias entry with a non-scalar side"
  | canonicalUnknown .. => "dropping alias with unknown canonical name"
  | aliasBlank .. => "dropping alias with a blank name"
  | metaCommand .. => "meta command"

/-- The fields of a notice. -/
def fields : Notice → List (String × Field)
  | compiled action target => [("action", .text action.name), ("target", .text target)]
  | rejected message column => [("message", .text message), ("column", .count column)]
  | unrecognized input => [("input", .text input)]
  | overlayInstalled aliases => [("aliases", .count aliases)]
  | vocabularyExtended aliases => [("aliases", .count aliases)]
  | documentIgnored => []
  | fileIgnored path => [("path", .text path)]
  | entryMalformed => []
  | entryNotScalar => []
  | canonicalUnknown word canonical => [("alias", .text word), ("canonical", .text canonical)]
  | aliasBlank canonical => [("canonical", .text canonical)]
  | metaCommand command => [("command", .text command)]

end Notice

end Adventure

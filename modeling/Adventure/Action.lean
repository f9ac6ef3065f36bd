/-
What a command asks for: to perform a verb, or nothing that was understood.
-/
import Adventure.Kind

namespace Adventure

/-- What a command asks for. -/
inductive Action where
  | perform (v : Verb)
  | unknown
  deriving DecidableEq, Repr

namespace Action

/-- All actions. -/
def all : List Action :=
  Verb.all.map perform ++ [unknown]

/-- The action that a token of some kind performs when it leads a line. -/
def ofKind? (kind : Kind) : Option Action :=
  kind.verb?.map perform

/-- The name of an action. -/
def name : Action → String
  | perform v => v.name
  | unknown => "unknown"

/-- The name of an action in data files. -/
def label : Action → String
  | perform v => v.label
  | unknown => "Unknown"

/-- Reads the name of an action in data files. -/
def ofLabel? (text : String) : Option Action :=
  all.find? fun action => action.label == text

/-- Whether nothing may follow the verb. -/
def standsAlone : Action → Bool
  | perform v => v.standsAlone
  | unknown => false

end Action

end Adventure

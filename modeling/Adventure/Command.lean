/-
Commands: what the rest of a game is told about a line.

A command is an action with its argument, target, preposition and object, or an error.
Values of this type also come from data files, so nothing ties the fields together here.
-/
import Adventure.Node
import Adventure.Text.Quoted

namespace Adventure

/-- A command. -/
structure Command where
  action : Action := .unknown
  argument : String := ""
  target : String := ""
  preposition : Option String := none
  object : Option String := none
  error : Option ParseError := none
  deriving DecidableEq, Repr

namespace Command

/-- The command of a line that was not understood. -/
def unknown : Command := {}

/-- The command of a line that broke a rule. -/
def ofError (e : ParseError) : Command :=
  { error := some e }

/-- The command that a node stands for; without a node nothing was understood. -/
def ofNode : Option Node → Command
  | some (.verb action phrase) =>
    { action
      argument := phrase.raw
      target := phrase.target
      preposition := phrase.preposition
      object := phrase.object }
  | some (.error e) => ofError e
  | some .unknown | none => unknown

/-- Whether nothing was understood. -/
def isUnknown (c : Command) : Bool :=
  c.action == .unknown && c.error.isNone

/-- Whether the line broke a rule. -/
def isError (c : Command) : Bool :=
  c.error.isSome

/-- The target part of the description. -/
def describeTarget (c : Command) : String :=
  if c.target.isEmpty then "" else " target=" ++ Text.quoted c.target

/-- The object part of the description, if both preposition and object are there. -/
def describeObject (c : Command) : String :=
  match c.preposition, c.object with
  | some preposition, some object => s!" {preposition} object=" ++ Text.quoted object
  | _, _ => ""

/-- A command on one line. -/
def describe (c : Command) : String :=
  match c.error with
  | some e => "error: " ++ e.describe
  | none => c.action.name ++ c.describeTarget ++ c.describeObject

end Command

end Adventure

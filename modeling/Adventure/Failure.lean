/-
What goes wrong outside the grammar: reading and writing, configuration, and the rest.
-/

namespace Adventure

/-- Where something went wrong. -/
structure Context where
  /-- The file or stream. -/
  source : Option String := none
  /-- Line and column in it. -/
  position : Option (Nat × Nat) := none
  deriving DecidableEq, Repr

namespace Context

/-- The context in words; a position without a source says nothing. -/
def describe (c : Context) : String :=
  match c.source, c.position with
  | some source, some (line, column) => s!"at {source}:{line}:{column}"
  | some source, none => s!"at {source}"
  | none, _ => ""

end Context

/-- What went wrong. -/
inductive Cause where
  /-- Reading or writing a file or stream. -/
  | io (path message : String)
  /-- A configuration that cannot be used. -/
  | config (message : String)
  /-- Anything else. -/
  | internal (message : String)
  deriving DecidableEq, Repr

namespace Cause

/-- The cause in words. -/
def message : Cause → String
  | io path message => s!"i/o error on {path}: {message}"
  | config message => s!"configuration error: {message}"
  | internal message => s!"internal error: {message}"

end Cause

/-- Something that went wrong, and where. -/
structure Failure where
  cause : Cause
  context : Option Context := none
  deriving DecidableEq, Repr

namespace Failure

/-- The failure in words. -/
def message (f : Failure) : String :=
  f.cause.message

/-- A failure to read or write the standard streams. -/
def stream (message : String) : Failure :=
  ⟨.io "<stream>" message, none⟩

/-- What is said of bytes that are not text. -/
def notText : String :=
  "stream did not contain valid UTF-8"

end Failure

end Adventure

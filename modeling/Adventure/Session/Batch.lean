/-
Answering a whole stream.

Each line that is not blank is answered on lines of its own.  The first line that is not
text ends the run, with what came before it answered; so does a write that is refused.  At
the end the output is flushed.
-/
import Adventure.Failure
import Adventure.Session
import Adventure.Text.Lines

namespace Adventure

/-- Where answers go: it may refuse to be written to, or to be flushed, and say why. -/
structure Sink where
  refusesWrites : Option String := none
  refusesFlushes : Option String := none

/-- What a run over a stream did. -/
structure BatchRun where
  /-- What was written. -/
  output : String := ""
  /-- How often the output was flushed. -/
  flushes : Nat := 0
  /-- How it ended. -/
  result : Except Failure Unit := .ok ()

namespace BatchRun

/-- A run that wrote something before. -/
def wrote (text : String) (r : BatchRun) : BatchRun :=
  { r with output := text ++ r.output }

/-- A run that ends in a failure of the stream. -/
def failed (message : String) : BatchRun :=
  { result := .error (.stream message) }

end BatchRun

namespace Session

/-- Answers the lines of a stream, each given as bytes. -/
def answerLines (s : Session) (sink : Sink) : List (List UInt8) → BatchRun
  | [] =>
    match sink.refusesFlushes with
    | some message => .failed message
    | none => { flushes := 1 }
  | bytes :: rest =>
    match Text.decode? bytes with
    | none => .failed Failure.notText
    | some line =>
      if Text.isBlankText line then s.answerLines sink rest
      else
        match sink.refusesWrites with
        | some message => .failed message
        | none => .wrote (s.render line ++ "\n") (s.answerLines sink rest)

/-- Answers a stream. -/
def answer (s : Session) (sink : Sink) (bytes : List UInt8) : BatchRun :=
  s.answerLines sink (Text.byteLines bytes)

end Session

end Adventure

/-
Runs of code points that change case by the same distance.

The alphabets of most scripts lie in two blocks, capitals and small letters, or
alternate capital and small.  A run names the first and last code point it holds, the
step from one to the next (one or two) and the image of the first; all others keep
their distance from it.
-/

namespace Adventure.Text

/-- Code points in equal steps, each sent as far as the first is. -/
structure CaseRun where
  first : Nat
  last : Nat
  step : Nat
  image : Nat
  deriving DecidableEq

namespace CaseRun

/-- Whether the run holds a code point. -/
def holds (run : CaseRun) (n : Nat) : Bool :=
  run.first ≤ n && n ≤ run.last && (n - run.first) % run.step == 0

/-- Where the run sends a code point that it holds. -/
def send (run : CaseRun) (n : Nat) : Nat :=
  run.image + (n - run.first)

/-- Sends a code point through the first run that holds it; others stay. -/
def apply (runs : List CaseRun) (n : Nat) : Nat :=
  match runs.find? (·.holds n) with
  | some run => run.send n
  | none => n

end CaseRun

end Adventure.Text

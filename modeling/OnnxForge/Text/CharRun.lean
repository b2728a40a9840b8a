/-!
# Runs of code points

A set of characters is a list of runs in increasing order. A run holds the code
points between two ends at equal steps, which keeps alternating blocks of upper
and lower case letters short.
-/

namespace OnnxForge.Text

/-- The code points from `first` to `last` at distance `step`. -/
structure CharRun where
  first : Nat
  last : Nat
  step : Nat
deriving DecidableEq, Repr

namespace CharRun

/-- Whether the run holds `code`. -/
def contains (run : CharRun) (code : Nat) : Bool :=
  decide (run.first ≤ code) && decide (code ≤ run.last) &&
    decide ((code - run.first) % run.step = 0)

/-- Whether one of the runs, given in increasing order, holds `code`. -/
def member : List CharRun → Nat → Bool
  | [], _ => false
  | run :: rest, code =>
    if code < run.first then false else run.contains code || member rest code

/-- The distance that the first run holding `code` assigns to it. -/
def shift? : List (CharRun × Int) → Nat → Option Int
  | [], _ => none
  | (run, distance) :: rest, code =>
    if run.contains code then some distance else shift? rest code

end CharRun

end OnnxForge.Text

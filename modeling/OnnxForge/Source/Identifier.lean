import OnnxForge.Text.CharClass

/-!
# Identifiers

Which texts may be identifiers of generated code, the reserved words among them, and
the choice of a name that is not taken.
-/

namespace OnnxForge.Source

def isIdentifier (text : String) : Bool :=
  match text.toList with
  | [] => false
  | first :: rest =>
    (first == '_' || Text.isIdentifierStart first) && rest.all Text.isIdentifierContinue

/-- The first candidate from an index on that is not taken, after at most `steps` that
are. -/
def firstFreeFrom (taken : List String) (candidate : Nat → String) :
    (steps index : Nat) → String
  | 0, index => candidate index
  | steps + 1, index =>
    if taken.contains (candidate index) then firstFreeFrom taken candidate steps (index + 1)
    else candidate index

/-- The first of the candidates that is not taken. Candidates that differ are not all
taken among one more than there are names taken. -/
def firstFree (taken : List String) (candidate : Nat → String) : String :=
  firstFreeFrom taken candidate taken.length 0

end OnnxForge.Source

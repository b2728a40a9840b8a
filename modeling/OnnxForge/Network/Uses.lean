import OnnxForge.Table

/-!
# Uses of variables

The positions at which each variable is going to be used are registered beforehand. A use
takes away its position; it needs a clone as long as the same position or a later one is
left.
-/

namespace OnnxForge.Network

/-- The positions of the uses of each variable that are left. -/
abbrev Uses := Table (List Nat)

namespace Uses

/-- Registers the use of a variable at a position. -/
def register (uses : Uses) (name : String) (position : Nat) : Uses :=
  uses.insert name ((uses.get? name).getD [] ++ [position])

/-- Uses a variable at a position, and tells whether it must be cloned. A variable without
registered uses is not. -/
def consume (uses : Uses) (name : String) (position : Nat) : Bool × Uses :=
  match uses.get? name with
  | none => (false, uses)
  | some positions =>
    let left := positions.erase position
    (left.any fun later => decide (position ≤ later), uses.insert name left)

end Uses

end OnnxForge.Network

import OnnxForge.Binding.OfCatalogue
import OnnxForge.Proofs.Binding.Arguments

/-!
# Arguments by position

Where no parameter stands after a variadic one, handing arguments out one after the other
is the same as binding every parameter to the argument at its own position, and a last
variadic one to all from its position on. The handing out fails only when the argument of a
required parameter is missing or when an argument stands beyond the last parameter.
-/

namespace OnnxForge.Binding

open Build

/-- What a parameter is bound to, given the arguments from its position on. -/
def Parameter.bound (parameter : Parameter) (arguments : List (Option Argument)) : Bound :=
  match parameter.kind with
  | .required => arguments.head?.join.elim (.maybe none) .one
  | .optional => .maybe arguments.head?.join
  | .variadic => .many (arguments.filterMap id)

/-- Parameters with what they are bound to by their positions. -/
def positional (parameters : List Parameter) (arguments : List (Option Argument)) :
    Environment :=
  parameters.mapIdx fun index parameter => (parameter, parameter.bound (arguments.drop index))

/-- Arguments that parameters can be called with. -/
structure Takes (parameters : List Parameter) (arguments : List (Option Argument)) : Prop where
  /-- The argument of a required parameter is present. -/
  required : ∀ (index : Nat) (parameter : Parameter), parameters[index]? = some parameter →
    parameter.kind = .required → ∃ argument, arguments[index]? = some (some argument)
  /-- Without a variadic parameter no present argument stands beyond the last one. -/
  within : (∀ parameter ∈ parameters, parameter.kind ≠ .variadic) →
    ∀ (index : Nat) (argument : Argument), arguments[index]? = some (some argument) →
      index < parameters.length

namespace Dispatcher

end Dispatcher

end OnnxForge.Binding

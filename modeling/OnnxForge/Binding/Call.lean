import OnnxForge.Binding
import OnnxForge.Build.Builder
import OnnxForge.Build.Cursor

/-!
# Calling bindings

What the functions and dispatchers do to a graph under construction. A function finds
the number of outputs, stages its inputs in order and makes the node; a dispatcher
resolves the version at the version of the graph, hands out the arguments in the order
of the parameters, and sees that none is left.
-/

namespace OnnxForge.Binding

open Build

/-- What a parameter is bound to. -/
inductive Bound
  | one (argument : Argument)
  | maybe (argument : Option Argument)
  | many (arguments : List Argument)

namespace Bound

/-- The argument that a parameter is bound to, unless it takes many. -/
def single? : Bound → Option Argument
  | one argument => some argument
  | maybe argument => argument
  | many _ => none

/-- The arguments that a parameter is bound to, when it takes many. -/
def several : Bound → List Argument
  | many arguments => arguments
  | _ => []

end Bound

/-- Parameters with what they are bound to. -/
abbrev Environment := List (Parameter × Bound)

namespace Function

/-- The argument that the parameter of a name is bound to. -/
def argument? (environment : Environment) (name : String) : Option Argument :=
  (environment.find? fun (parameter, _) => parameter.name == name).bind (·.2.single?)

/-- The number of outputs, by a rule. A rule with two sources falls back on the second. -/
def count (environment : Environment) (attributes : Attributes) :
    CountRule → Except InputFault OutputCount
  | .declared => .ok .declared
  | .splitInput sizes => OutputCount.ofSplitInput (argument? environment sizes)
  | .splitInputOrNumber sizes =>
    OutputCount.ofSplitInput (argument? environment sizes) <|>
      OutputCount.ofNumOutputs attributes
  | .splitAttribute => OutputCount.ofSplitAttribute attributes
  | .splitAttributeOrInput sizes =>
    OutputCount.ofSplitAttribute attributes <|>
      OutputCount.ofSplitInput (argument? environment sizes)

/-- The inputs in the order in which they are staged: those of the fixed parameters, then
those of the first variadic one. -/
def arguments (environment : Environment) : List (Option Argument) :=
  (environment.filter fun (parameter, _) => parameter.kind != .variadic).map (·.2.single?) ++
    ((environment.find? fun (parameter, _) => parameter.kind == .variadic).elim []
      fun (_, bound) => bound.several.map some)

/-- Adds the node that a call of the function asks for. -/
def call (function : Function) (environment : Environment) (attributes : Attributes) :
    Building Message.Node := do
  let count ← .ofExcept .invalidInput (count environment attributes function.countRule)
  let inputs ← Building.collect (arguments environment)
  Building.makeNode function.operator function.domain function.version inputs count attributes

end Function

namespace Dispatcher

/-- Hands out what one parameter takes. -/
def take (parameter : Parameter) (cursor : Cursor) : Except InputFault (Bound × Cursor) :=
  match parameter.kind with
  | .required =>
    match cursor.required with
    | (.ok argument, rest) => .ok (.one argument, rest)
    | (.error fault, _) => .error fault
  | .optional => .ok (.maybe cursor.optional.1, cursor.optional.2)
  | .variadic => .ok (.many cursor.rest.1, cursor.rest.2)

/-- Hands out what parameters take, in order, and sees that nothing is left. -/
def takeAll : List Parameter → Cursor → Except InputFault Environment
  | [], cursor => (fun _ => []) <$> cursor.finish
  | parameter :: rest, cursor => do
    let (bound, cursor) ← take parameter cursor
    return (parameter, bound) :: (← takeAll rest cursor)

def armOf (dispatcher : Dispatcher) (version : Int64) : Except BuildError Function :=
  match dispatcher.arms.find? fun function => function.version == version with
  | some function => .ok function
  | none => .error (.unknownSchema dispatcher.operator dispatcher.domain version)

/-- Adds the node that a call of the dispatcher asks for. -/
def call (dispatcher : Dispatcher) (arguments : List (Option Argument))
    (attributes : Attributes) : Building Message.Node := do
  let builder ← get
  let schema ← .ofExcept id (builder.resolve dispatcher.operator dispatcher.domain)
  let function ← .ofExcept id (dispatcher.armOf schema.sinceVersion)
  let environment ← .ofExcept .invalidInput
    (takeAll function.parameters (.start dispatcher.operator arguments))
  function.call environment attributes

end Dispatcher

end OnnxForge.Binding

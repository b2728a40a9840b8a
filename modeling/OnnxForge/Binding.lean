/-!
# Bindings

The functions generated for the operators of a catalogue. A function stands for one
version of an operator: it takes its inputs, a graph and attributes, and adds a node
to the graph. A dispatcher takes positional arguments, and calls the function of the
version in effect.
-/

namespace OnnxForge.Binding

/-- How a function takes an input. -/
inductive ParameterKind
  | required
  | optional
  | variadic
deriving DecidableEq

/-- A parameter of a function. -/
structure Parameter where
  name : String
  kind : ParameterKind
deriving DecidableEq

/-- Where a function finds the number of outputs of the node. A split names the parameter
of its sizes. -/
inductive CountRule
  | declared
  | splitInput (parameter : String)
  | splitInputOrNumber (parameter : String)
  | splitAttribute
  | splitAttributeOrInput (parameter : String)
deriving DecidableEq

/-- The function of one version of an operator. -/
structure Function where
  name : String
  operator : String
  domain : String
  version : Int64
  parameters : List Parameter
  countRule : CountRule
deriving DecidableEq

/-- The dispatcher of an operator, with the functions it chooses from. -/
structure Dispatcher where
  name : String
  operator : String
  domain : String
  arms : List Function
deriving DecidableEq

/-- The functions that one version of the operator sets brought. -/
structure VersionModule where
  version : Int64
  functions : List Function
deriving DecidableEq

/-- The bindings of a catalogue. -/
structure Bindings where
  modules : List VersionModule
  dispatchers : List Dispatcher
  /-- The names of the operators. -/
  operators : List String
deriving DecidableEq

namespace Function

/-- The parameters that take one argument at most. -/
def fixed (function : Function) : List Parameter :=
  function.parameters.filter fun parameter => parameter.kind != .variadic

/-- The first parameter that takes any number of arguments. -/
def variadic? (function : Function) : Option Parameter :=
  function.parameters.find? fun parameter => parameter.kind == .variadic

end Function

end OnnxForge.Binding

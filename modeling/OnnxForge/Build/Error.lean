import OnnxForge.Build.Argument
import OnnxForge.Catalogue.Conformance

/-!
# Faults of building

Why a builder refuses a call, and the wording of each reason.
-/

namespace OnnxForge.Build

/-- What is wrong with the arguments of a call. -/
inductive InputFault
  /-- The number of elements of an array does not fit its shape. -/
  | wrongLength (shape : Shape) (found : Nat)
  /-- The program stops, since no word can be the number of elements of an array. -/
  | overflow
  | emptyName
  /-- A node without outputs stands for no value. -/
  | noOutput (node : String)
  /-- The graph has gained initializers since the inputs were staged. -/
  | stale (operator : String)
  /-- The sizes of a split are not given as an array. -/
  | splitNotArray (found : Argument)
  | splitInputMissing
  | splitAttributeMissing
  | splitCountMissing
  | argumentMissing (operator : String) (position : Nat)
  | argumentsLeft (operator : String) (taken left : Nat)

def InputFault.message : InputFault → String
  | .wrongLength shape found =>
    "array of shape " ++ shape.text ++ " holds " ++ Text.natural found ++ " elements"
  | .overflow => "attempt to multiply with overflow"
  | .emptyName => "empty tensor name"
  | .noOutput node => "node '" ++ node ++ "' has no output"
  | .stale operator => "inputs of " ++ operator ++ " were collected before the graph changed"
  | .splitNotArray found =>
    "the output count of Split needs the split sizes as an array, got " ++ found.describe
  | .splitInputMissing => "the output count of Split needs the split input"
  | .splitAttributeMissing => "the output count of Split needs the split attribute"
  | .splitCountMissing => "the output count of Split needs a positive num_outputs attribute"
  | .argumentMissing operator position =>
    operator ++ " expects an input at position " ++ Text.natural position
  | .argumentsLeft operator taken left =>
    operator ++ " takes at most " ++ Text.natural taken ++ " inputs, got " ++
      Text.natural left ++ " more"

/-- Why a builder refuses a call. -/
inductive BuildError
  | invalidInput (fault : InputFault)
  | nonconforming (fault : ConformanceFault)
  /-- Several names cannot be declared as one output. -/
  | unsupportedOutput (names : List String)
  /-- The catalogue has no schema of the operator at the version. -/
  | unknownSchema (name domain : String) (version : Int64)

def BuildError.message : BuildError → String
  | .invalidInput fault => "Invalid input: " ++ fault.message
  | .nonconforming fault => fault.message
  | .unsupportedOutput names =>
    "Unsupported graph output: a list of names (" ++ Text.quotedList names ++
      ") cannot be declared as one output"
  | .unknownSchema name domain version =>
    "No schema for operator '" ++ name ++ "' (domain '" ++ domain ++ "') at opset version " ++
      Text.integer version.toInt

end OnnxForge.Build

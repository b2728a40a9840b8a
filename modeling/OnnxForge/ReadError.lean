import OnnxForge.AttributeType
import OnnxForge.Tensor
import OnnxForge.Text.Utf8

/-!
# Faults of model files

Why a file, or a message in it, is no graph, tensor or attribute that this library
knows, and the wording of each fault.
-/

namespace OnnxForge

/-- What is wrong with a tensor. -/
inductive TensorFault
  /-- Some sizes are negative. -/
  | negativeSizes (sizes : List Int64)
  /-- The raw octets do not make up whole elements of `width` octets. -/
  | unevenOctets (count width : Nat)
  /-- Texts cannot be raw octets. -/
  | rawText
  /-- An element is no text. -/
  | notText (fault : Text.Utf8.Fault)
  /-- The shape asks for another number of elements. -/
  | wrongLength (shape : Shape) (found : Nat)
  /-- The program stops, since no word can be the number of elements. -/
  | overflow
deriving DecidableEq

def TensorFault.message : TensorFault → String
  | .negativeSizes sizes =>
    "negative dims " ++ Text.bracketed (sizes.map fun size => Text.integer size.toInt)
  | .unevenOctets count width =>
    "raw data of " ++ Text.natural count ++ " bytes is not a multiple of " ++ Text.natural width
  | .rawText => "string tensors cannot use raw data"
  | .notText fault => fault.message
  | .wrongLength shape found =>
    "shape " ++ shape.text ++ " needs " ++ Text.natural shape.size.toNat ++
      " elements, found " ++ Text.natural found
  | .overflow => "attempt to multiply with overflow"

/-- What is wrong with an attribute. -/
inductive AttributeFault
  /-- No type of attributes has the code. -/
  | unknownType (code : Int32)
  /-- The attribute has no type. -/
  | noType
  /-- Values of the type are not handled. -/
  | unhandledType (type : AttributeType)
  /-- A value is no text. -/
  | notText (fault : Text.Utf8.Fault)
deriving DecidableEq

def AttributeFault.message : AttributeFault → String
  | .unknownType code => "unknown attribute type " ++ Text.integer code.toInt
  | .noType => "attribute type UNDEFINED is not supported"
  | .unhandledType type => "attribute type " ++ type.capitals ++ " is not supported"
  | .notText fault => fault.message

/-- Why a model cannot be read. -/
inductive ReadError
  /-- The file cannot be opened. -/
  | unreadable
  /-- The octets are no message. -/
  | malformed
  /-- No element type handled here has the code. -/
  | unsupportedDataType (code : Int32)
  | invalidTensor (name : String) (fault : TensorFault)
  | invalidAttribute (name : String) (fault : AttributeFault)
  /-- Whole numbers were asked of a tensor that holds something else. -/
  | notInteger (found : ElementType)
deriving DecidableEq

def ReadError.message : ReadError → String
  | .unreadable => "IO error: the file cannot be opened"
  | .malformed => "Protobuf error: the octets are no message"
  | .unsupportedDataType code => "Unsupported data type: " ++ Text.integer code.toInt
  | .invalidTensor name fault => "Invalid tensor '" ++ name ++ "': " ++ fault.message
  | .invalidAttribute name fault => "Invalid attribute '" ++ name ++ "': " ++ fault.message
  | .notInteger found => "Expected integer data, found " ++ found.name

/-- The whole numbers of a tensor, or the fault of asking for them. -/
def Tensor.integers (tensor : Tensor) : Except ReadError (List Int64) :=
  match tensor.integers? with
  | some values => .ok values
  | none => .error (.notInteger tensor.elementType)

end OnnxForge

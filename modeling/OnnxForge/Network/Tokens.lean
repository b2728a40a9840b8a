import OnnxForge.Network.Literal

/-!
# Code of networks

The tokens of expressions, fields and whole networks. A network is one structure with its
fields, the constructor that sets them up on a device, and the function `forward`.
-/

namespace OnnxForge.Network

open Source Token

/-! ## Expressions -/

/-- A call of a method without arguments. -/
def callCode (receiver : List Token) (method : String) : List Token :=
  receiver ++ [mark '.', word method, mark '(', mark ')']

/-- A call of a method. -/
def methodCode (receiver : List Token) (method : String) (arguments : List Token) : List Token :=
  receiver ++ mark '.' :: word method :: parens arguments

/-- A call of a method with numbers as type arguments. -/
def genericCode (receiver : List Token) (method : String) (types : List Nat)
    (arguments : List Token) : List Token :=
  receiver ++ mark '.' :: word method :: scan "::<" ++
    commaSeparated (types.map fun n => [naturalCode n]) ++ mark '>' :: parens arguments

def Expression.code : Expression → List Token
  | .var name cloned => if cloned then callCode [word name] "clone" else [word name]
  | .constant field => callCode (scan "self." ++ [word field]) "val"
  | .toInt operand => callCode operand.code "int"
  | .max operand => callCode operand.code "max"
  | .sum operand => callCode operand.code "sum"
  | .sumAlong operand axis => methodCode operand.code "sum_dim" [naturalCode axis]
  | .squeeze operand rank axes =>
    genericCode operand.code "squeeze_dims" [rank] (mark '&' :: naturalsCode axes)
  | .select operand axis index =>
    methodCode operand.code "select" (naturalCode axis :: mark ',' :: index.code)
  | .take operand indexRank rank axis index =>
    genericCode operand.code "take" [indexRank, rank] (naturalCode axis :: mark ',' :: index.code)
  | .embed layer index => methodCode (scan "self." ++ [word layer]) "forward" index.code

/-- The binding of a variable. -/
def letCode (name : String) (value : List Token) : List Token :=
  word "let" :: word name :: mark '=' :: value ++ [mark ';']

def Assignment.code (assignment : Assignment) : List Token :=
  letCode assignment.name assignment.value.code

/-! ## Fields -/

def declarationCode (name : String) (type : List Token) : List Token :=
  word name :: mark ':' :: type

def parameterCode (tensor : Tensor) (kind : TensorKind) : List Token :=
  scan "burn::module::Param::from_tensor" ++ parens (tensorCode tensor kind)

namespace Layer

/-- The type of a layer. -/
def typeCode : List Token :=
  scan "Embedding<B>"

/-- The code that makes a layer. -/
def valueCode (layer : Layer) : List Token :=
  match layer.weights with
  | .given tensor => word "Embedding" :: braces (scan "weight:" ++ parameterCode tensor .float)
  | .fresh count width =>
    scan "EmbeddingConfig::new" ++
      parens (commaSeparated [[naturalCode count.toNat], [naturalCode width.toNat]]) ++
      scan ".init(device)"

/-- The statement that sets up a layer. -/
def setup (layer : Layer) : List Token :=
  letCode layer.name layer.valueCode

/-- The paths that a layer needs imported. -/
def imports (layer : Layer) : List String :=
  match layer.weights with
  | .given _ => ["burn::nn::Embedding"]
  | .fresh _ _ => ["burn::nn::Embedding", "burn::nn::EmbeddingConfig"]

end Layer

namespace Constant

def typeCode (constant : Constant) : List Token :=
  scan "burn::module::Param<" ++ Network.typeCode constant.type ++ [mark '>']

/-- The code that makes a constant. -/
def valueCode (constant : Constant) : List Token :=
  parameterCode constant.tensor constant.kind

/-- The statement that sets up a constant. -/
def setup (constant : Constant) : List Token :=
  letCode constant.name constant.valueCode

end Constant

/-! ## Networks -/

/-- What a file of code has besides the network. -/
structure Layout where
  /-- A comment at the top. -/
  comment : Option String
  /-- Whether blank lines stand between the parts. -/
  blankLines : Bool

namespace Layout

/-- No comment and no blank lines. -/
def plain : Layout := ⟨none, false⟩

/-- The marker of a comment at the top. -/
def commentCode (layout : Layout) : List Token :=
  layout.comment.elim [] fun text => scan "_comment_!" ++ parens [quoted text] ++ [mark ';']

/-- The marker of a blank line. -/
def blankCode (layout : Layout) : List Token :=
  if layout.blankLines then scan "_blank_!();" else []

end Layout

/-- The fields of a network with their types. -/
def fields (network : Network) : List (String × List Token) :=
  (network.layers.map fun layer => (layer.name, Layer.typeCode)) ++
    network.constants.map fun constant => (constant.name, constant.typeCode)

/-- The paths that a network needs imported, in order and without repetition. -/
def imports (network : Network) : List String :=
  ((network.layers.flatMap Layer.imports).mergeSort fun a b => decide (a ≤ b)).eraseReps

/-- The import declarations. -/
def importsCode (network : Network) : List Token :=
  scan "use burn::prelude::*;" ++
    network.imports.flatMap fun path => scan "use" ++ scan path ++ [mark ';']

/-- The structure with its fields. -/
def structureCode (network : Network) : List Token :=
  scan "#[derive(Module, Debug)] pub struct Model<B: Backend>" ++
    braces (commaSeparated (network.fields.map (fun field => declarationCode field.1 field.2) ++
      [scan "phantom: core::marker::PhantomData<B>",
        scan "device: burn::module::Ignored<B::Device>"]))

/-- The constructor, which sets up constants before layers. -/
def constructorCode (network : Network) : List Token :=
  scan "#[allow(unused_variables)] pub fn new(device: &B::Device) -> Self" ++
    braces (network.constants.flatMap Constant.setup ++ network.layers.flatMap Layer.setup ++
      word "Self" :: braces (commaSeparated (network.fields.map (fun field => [word field.1]) ++
        [scan "phantom: core::marker::PhantomData",
          scan "device: burn::module::Ignored(device.clone())"])))

/-- One item as it is, and any other number of them as a tuple. -/
def tupleCode : List (List Token) → List Token
  | [item] => item
  | items => parens (commaSeparated items)

def functionCode (network : Network) : List Token :=
  scan "#[allow(clippy::let_and_return, clippy::approx_constant)] pub fn forward" ++
    parens (commaSeparated (scan "&self" :: network.inputs.map fun input =>
      declarationCode input.name (typeCode input.type))) ++
    scan "->" ++ tupleCode (network.results.map typeCode) ++
    braces (network.assignments.flatMap Assignment.code ++
      tupleCode (network.returned.map Expression.code))

def code (network : Network) (layout : Layout) : List Token :=
  layout.commentCode ++ network.importsCode ++ layout.blankCode ++ network.structureCode ++
    layout.blankCode ++ scan "impl<B: Backend> Model<B>" ++
    braces (network.constructorCode ++ layout.blankCode ++ network.functionCode)

end OnnxForge.Network

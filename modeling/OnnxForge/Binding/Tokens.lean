import OnnxForge.Binding
import OnnxForge.Source.Token
import OnnxForge.Text.Numeral

/-!
# Code of bindings

The tokens of the functions, the dispatchers and the files that hold them.
-/

namespace OnnxForge.Binding

open Source Token

/-- A line of documentation. -/
def doc (text : String) : List Token :=
  mark '#' :: brackets (scan "doc =" ++ [quoted text])

/-- The numeral of a version, a minus sign being a token of its own. -/
def versionTokens (version : Int64) : List Token :=
  scan (Text.integer version.toInt)

def moduleName (version : Int64) : String :=
  "op_ver_" ++ Text.integer version.toInt

def fileName (module : String) : String :=
  module ++ ".rs"

/-- The attribute that permits unused imports. -/
def allowUnused : List Token :=
  scan "#[allow(unused_imports)]"

/-! ## Functions -/

namespace Parameter

def type (parameter : Parameter) : List Token :=
  match parameter.kind with
  | .required => scan "impl Into<NodeInput>"
  | .optional => scan "Option<NodeInput>"
  | .variadic => scan "Vec<NodeInput>"

def declaration (parameter : Parameter) : List Token :=
  word parameter.name :: mark ':' :: parameter.type

/-- A parameter as an element of the list of inputs. -/
def element (parameter : Parameter) : List Token :=
  match parameter.kind with
  | .required => word "Some" :: parens (word parameter.name :: scan ".into()")
  | _ => [word parameter.name]

end Parameter

namespace CountRule

/-- The call that counts the sizes of a parameter. -/
def ofInput (parameter : String) : List Token :=
  scan "OutputArity::from_split_input" ++ parens (word parameter :: scan ".as_ref()")

/-- The call that falls back on another. -/
def orElse (fallback : List Token) : List Token :=
  scan ".or_else" ++ parens (scan "|_|" ++ fallback)

def expression : CountRule → List Token
  | .declared => scan "OutputArity::Declared"
  | .splitInput parameter => ofInput parameter ++ [mark '?']
  | .splitInputOrNumber parameter =>
    ofInput parameter ++ orElse (scan "OutputArity::from_num_outputs(&attrs)") ++ [mark '?']
  | .splitAttribute => scan "OutputArity::from_split_attr(&attrs)?"
  | .splitAttributeOrInput parameter =>
    scan "OutputArity::from_split_attr(&attrs)" ++ orElse (ofInput parameter) ++ [mark '?']

end CountRule

namespace Function

/-- The statements that stage the inputs. -/
def staging (function : Function) : List Token :=
  let fixed := scan "vec!" ++ brackets (commaSeparated (function.fixed.map Parameter.element))
  let stage (arguments : List Token) :=
    scan "let inputs = add_inputs" ++ parens (scan "graph," ++ arguments) ++ scan "?;"
  match function.variadic? with
  | none => stage fixed
  | some parameter =>
    let rest := word parameter.name :: scan ".into_iter().map(Some)"
    if function.fixed.isEmpty then stage (rest ++ scan ".collect()")
    else
      scan "let mut args =" ++ fixed ++ scan "; args.extend" ++ parens rest ++ [mark ';'] ++
        stage (scan "args")

/-- The result of functions and dispatchers. -/
def result : List Token :=
  scan "-> Result<NodeHandle>"

def definition (function : Function) : List Token :=
  doc (" \x60" ++ function.operator ++ "\x60 operator, since opset " ++
      Text.integer function.version.toInt ++ ".") ++
    scan "pub fn" ++ [word function.name] ++
    parens (commaSeparated (scan "graph: &mut GraphBuilder" ::
      function.parameters.map Parameter.declaration ++ [scan "attrs: Attributes"])) ++
    result ++
    braces (scan "let arity =" ++ function.countRule.expression ++ [mark ';'] ++
      function.staging ++ scan "graph.make_node" ++
      parens ([quoted function.operator, mark ',', quoted function.domain, mark ','] ++
        versionTokens function.version ++ scan ", inputs, arity, attrs"))

end Function

def VersionModule.code (module : VersionModule) : List Token :=
  allowUnused ++ scan "use onnx_model_maker::builder::" ++
    braces (scan "Attributes, GraphBuilder, NodeHandle, NodeInput, OutputArity") ++
    scan "; use onnx_model_maker::Result; use super::op_helper::add_inputs;" ++
    module.functions.flatMap Function.definition

/-! ## Dispatchers -/

namespace Dispatcher

/-- The statement that takes the arguments of a parameter. -/
def unpack (parameter : Parameter) : List Token :=
  let method := match parameter.kind with
    | .required => scan "args.required()?;"
    | .optional => scan "args.optional();"
    | .variadic => scan "args.rest();"
  scan "let" ++ [word parameter.name, mark '='] ++ method

/-- The arm of a version. -/
def arm (function : Function) : List Token :=
  versionTokens function.version ++ scan "=>" ++
    braces (function.parameters.flatMap unpack ++ scan "args.finish()?;" ++
      [word (moduleName function.version)] ++ scan "::" ++ [word function.name] ++
      parens (commaSeparated (scan "graph" ::
        function.parameters.map (fun parameter => [word parameter.name]) ++ [scan "attrs"])))

/-- Whether some arm takes arguments. -/
def takesArguments (dispatcher : Dispatcher) : Bool :=
  dispatcher.arms.any fun function => !function.parameters.isEmpty

def definition (dispatcher : Dispatcher) : List Token :=
  let operator := quoted dispatcher.operator
  let domain := quoted dispatcher.domain
  doc (" \x60" ++ dispatcher.operator ++ "\x60 operator, at the opset version of the graph.") ++
    scan "pub fn" ++ [word dispatcher.name] ++
    parens (scan "graph: &mut GraphBuilder, args: Vec<Option<NodeInput>>, attrs: Attributes") ++
    Function.result ++
    braces (scan (if dispatcher.takesArguments then "let mut args =" else "let args =") ++
      scan "Args::new" ++ parens (operator :: scan ", args") ++ scan "; match" ++
      scan "graph.resolve_version" ++ parens [operator, mark ',', domain] ++ [mark '?'] ++
      braces (dispatcher.arms.flatMap arm ++
        scan "version => Err" ++ parens (scan "Error::unknown_schema" ++
          parens ([operator, mark ',', domain] ++ scan ", version"))))

end Dispatcher

/-! ## The main file -/

/-- The declaration of a module kept in a file of its own. -/
def moduleDeclaration (module : String) : List Token :=
  scan "pub mod" ++ [word module] ++
    braces (scan "include!" ++ parens [quoted (fileName module)] ++ [mark ';'])

/-- The function that declares the inputs of a graph. -/
def inputDefinition : List Token :=
  doc " Declare one typed graph input per sample array and return their names." ++
    scan "pub fn input(graph: &mut GraphBuilder, samples: &[TensorData]) -> Vec<String>" ++
    braces (scan "graph.input(samples)")

/-- The function that declares the outputs of a graph. -/
def outputDefinition : List Token :=
  doc " Declare graph outputs: arrays as typed outputs, names as untyped outputs and every" ++
    doc " output of a node. Nothing is declared when one of them is a list of names." ++
    scan "pub fn output(graph: &mut GraphBuilder, outputs: Vec<NodeInput>) -> Result<()>" ++
    braces (scan "let outputs = outputs.into_iter().map(GraphOutput::try_from)" ++
      scan ".collect::<Result<Vec<_>>>()?; graph.output(outputs); Ok(())")

/-- The code of the main file of bindings. -/
def Bindings.code (bindings : Bindings) : List Token :=
  allowUnused ++ scan "use onnx_model_maker::builder::" ++
    braces (scan "Args, Attributes, GraphBuilder, GraphOutput, NodeHandle, NodeInput," ++
      scan "TensorData") ++
    scan "; use onnx_model_maker::" ++ braces (scan "Error, Result") ++ [mark ';'] ++
    moduleDeclaration "op_helper" ++
    bindings.modules.flatMap (fun module => moduleDeclaration (moduleName module.version)) ++
    doc " Operators with a dispatch function, by ONNX name." ++
    scan "pub const OPERATORS: &[&str] = &" ++
    brackets (commaSeparated (bindings.operators.map fun name => [quoted name])) ++ [mark ';'] ++
    inputDefinition ++ outputDefinition ++ bindings.dispatchers.flatMap Dispatcher.definition

/-- The code of the file that the functions share. -/
def helperCode : List Token :=
  scan "use onnx_model_maker::builder::" ++ braces (scan "GraphBuilder, NodeInput, NodeInputs") ++
    scan "; use onnx_model_maker::Result;" ++
    doc " Convert the arguments of one node into its inputs." ++ doc "" ++
    doc " Absent arguments contribute nothing. Arrays become initializers, which only reach the" ++
    doc " graph with the node." ++
    scan "pub fn add_inputs(graph: &GraphBuilder, args: Vec<Option<NodeInput>>)" ++
    scan "-> Result<NodeInputs>" ++
    braces (scan "let mut inputs = graph.node_inputs(); for arg in args" ++
      braces (scan "inputs.add_input(arg)?;") ++ scan "Ok(inputs)")

end OnnxForge.Binding

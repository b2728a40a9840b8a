import OnnxForge.Message
import OnnxForge.Schema
import OnnxForge.Text.Numeral

/-!
# Conformance

Whether a node keeps to a schema: its operator, how many inputs and outputs it has,
which inputs are missing, and its attributes. Of several faults the first counts.
-/

namespace OnnxForge

/-- How a node fails to keep to a schema. -/
inductive ConformanceFault
  /-- The schema is of another operator. -/
  | otherOperator (node opType domain schema schemaDomain : String)
  | inputCount (node : String) (found least most : Nat)
  | outputCount (node : String) (found least most : Nat)
  /-- An input that is not optional is missing. -/
  | missingInput (node : String) (index : Nat)
  | undeclaredAttribute (name operator : String)
  /-- An attribute does not have its declared type. -/
  | attributeType (node name : String)
  | missingAttribute (name node : String)
deriving DecidableEq

namespace ConformanceFault

def countMessage (node kind : String) (found least most : Nat) : String :=
  "Node (" ++ node ++ ") has " ++ kind ++ " size " ++ Text.natural found ++
    " not in range [min=" ++ Text.natural least ++ ", max=" ++ Text.natural most ++ "]."

def message : ConformanceFault → String
  | .otherOperator node opType domain schema schemaDomain =>
    "Node (" ++ node ++ ") of type " ++ opType ++ " (domain '" ++ domain ++
      "') checked against schema " ++ schema ++ " (domain '" ++ schemaDomain ++ "')"
  | .inputCount node found least most => countMessage node "input" found least most
  | .outputCount node found least most => countMessage node "output" found least most
  | .missingInput node index =>
    "Node (" ++ node ++ ")'s input " ++ Text.natural index ++
      " is marked single but has an empty string in the graph"
  | .undeclaredAttribute name operator =>
    "Unrecognized attribute: " ++ name ++ " for operator " ++ operator
  | .attributeType node name =>
    "Mismatched attribute type in 'Node (" ++ node ++ ") : " ++ name ++ "'"
  | .missingAttribute name node =>
    "Required attribute '" ++ name ++ "' is missing in Node (" ++ node ++ ")."

end ConformanceFault

namespace Schema

def operatorFault? (schema : Schema) (node : Message.Node) : Option ConformanceFault :=
  if schema.isOf node.opType node.domain then none
  else some (.otherOperator node.name node.opType node.domain schema.name schema.domain)

/-- The fault of a node with too few or too many inputs or outputs. -/
def countFault? (schema : Schema) (node : Message.Node) : Option ConformanceFault :=
  if node.inputs.length < schema.minInput ∨ schema.maxInput < node.inputs.length then
    some (.inputCount node.name node.inputs.length schema.minInput schema.maxInput)
  else if node.outputs.length < schema.minOutput ∨ schema.maxOutput < node.outputs.length then
    some (.outputCount node.name node.outputs.length schema.minOutput schema.maxOutput)
  else none

/-- How often the parameter of a position may occur. The last one declared serves all
positions after it. -/
def occurrence? (schema : Schema) (index : Nat) : Option Occurrence :=
  (schema.inputs[index]?.or schema.inputs.getLast?).map (·.occurrence)

def allowsInput (schema : Schema) (index : Nat) (name : String) : Bool :=
  name != "" || schema.occurrence? index == some .optional

/-- The fault of a node in which an input is missing that must not be. -/
def inputFault? (schema : Schema) (node : Message.Node) : Option ConformanceFault :=
  (node.inputs.zipIdx.find? fun (name, index) => !schema.allowsInput index name).map
    fun (_, index) => .missingInput node.name index

/-- The fault of an attribute that is not declared or has another type. -/
def attributeFault? (schema : Schema) (node : String) (attr : Message.Attribute) :
    Option ConformanceFault :=
  match schema.attribute? attr.name with
  | none => some (.undeclaredAttribute attr.name schema.name)
  | some spec =>
    if AttributeType.ofCode? attr.type = some spec.type then none
    else some (.attributeType node attr.name)

/-- The fault of a node that lacks a mandatory attribute. -/
def missingFault? (schema : Schema) (node : Message.Node) : Option ConformanceFault :=
  (schema.attributes.find? fun spec =>
    spec.required && !node.attributes.any fun attr => attr.name == spec.name).map
    fun spec => .missingAttribute spec.name node.name

/-- The first fault of a node. -/
def fault? (schema : Schema) (node : Message.Node) : Option ConformanceFault :=
  schema.operatorFault? node <|> schema.countFault? node <|> schema.inputFault? node <|>
    node.attributes.findSome? (schema.attributeFault? node.name) <|> schema.missingFault? node

end Schema

end OnnxForge

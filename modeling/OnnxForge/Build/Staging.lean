import OnnxForge.Attempt
import OnnxForge.Build.Error
import OnnxForge.Graph.ToMessage

/-!
# Staged inputs

The inputs of a node that is yet to be made, with the initializers that its arrays
ask for. Arrays are numbered on from the initializers that the graph had when the
staging began; nothing reaches the graph before the node does.
-/

namespace OnnxForge.Build

/-- The name of the initializer at a position. -/
def initializerName (index : Nat) : String :=
  namePrefix ++ "Initializer_" ++ Text.natural index

/-- Inputs collected for a node. -/
structure Staging where
  names : List String
  initializers : List Message.Tensor
  /-- The number of initializers of the graph when the staging began. -/
  base : Nat

/-- Accepts a tensor whose elements fit its shape. -/
def checkArray (overflow : Overflow) (tensor : Tensor) : Except InputFault Unit :=
  match tensor.consistent? overflow with
  | some true => .ok ()
  | some false => .error (.wrongLength tensor.shape tensor.payload.length)
  | none => .error .overflow

namespace Staging

/-- The staging without inputs. -/
def start (base : Nat) : Staging := ⟨[], [], base⟩

end Staging

abbrev Collecting := Attempt InputFault Staging

namespace Collecting

/-- Appends names as they are. -/
def append (names : List String) : Collecting Unit :=
  modify fun staging => { staging with names := staging.names ++ names }

/-- Adds an array, under the name of the next initializer. -/
def addArray (overflow : Overflow) (tensor : Tensor) : Collecting Unit := do
  .ofExcept id (checkArray overflow tensor)
  let staging ← get
  let name := initializerName (staging.base + staging.initializers.length)
  modify fun staging =>
    { staging with initializers := staging.initializers ++ [tensor.toMessage name] }
  append [name]

/-- Accepts a name that is not empty. -/
def checkName (name : String) : Collecting Unit :=
  if name = "" then throw .emptyName else pure ()

/-- Adds names of values. -/
def addNames (names : List String) : Collecting Unit := do
  names.forM checkName
  append names

/-- Adds the first output of a node. -/
def addOutput (node : Message.Node) : Collecting Unit :=
  match node.outputs.head? with
  | some output => append [output]
  | none => throw (.noOutput node.name)

/-- Adds an argument. One that is missing adds nothing. -/
def add : Option Argument → Collecting Unit
  | none => pure ()
  | some (.array tensor) => addArray .stops tensor
  | some (.name name) => addNames [name]
  | some (.names names) => addNames names
  | some (.node node) => addOutput node

/-- Adds arguments in order. -/
def addAll (arguments : List (Option Argument)) : Collecting Unit :=
  arguments.forM add

end Collecting

end OnnxForge.Build

import OnnxForge.Network.Gather
import OnnxForge.Network.Max
import OnnxForge.Network.ReduceSum

/-!
# Generators

Each operator that is handled has a generator. A generation uses the generators that are
registered with it.
-/

namespace OnnxForge.Network

/-- A generator of the nodes of one operator. -/
inductive Generator
  | gather
  | max
  | reduceSum
deriving DecidableEq

namespace Generator

/-- Every generator. -/
def all : List Generator :=
  [gather, max, reduceSum]

def operator : Generator → String
  | gather => "Gather"
  | max => "Max"
  | reduceSum => "ReduceSum"

def ofOperator? (operator : String) : Option Generator :=
  all.find? fun generator => generator.operator == operator

/-- Generates a node of the operator. -/
def generate : Generator → Setting → Node → Generation NodeCode
  | gather => Gather.generate
  | max => Max.generate
  | reduceSum => ReduceSum.generate

end Generator

/-- The generators registered, by operator. -/
abbrev Generators := Table Generator

namespace Generators

/-- The table of some generators. -/
def ofGenerators (generators : List Generator) : Generators :=
  .ofList (generators.map fun generator => (generator.operator, generator))

/-- The table of all generators. -/
def standard : Generators :=
  ofGenerators Generator.all

def find (generators : Generators) (operator : String) : Except NetworkError Generator :=
  match generators.get? operator with
  | none => .error (.unsupportedOperator operator)
  | some generator => .ok generator

end Generators

end OnnxForge.Network

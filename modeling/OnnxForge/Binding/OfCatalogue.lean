import OnnxForge.Binding
import OnnxForge.Binding.Naming
import OnnxForge.Catalogue

/-!
# Bindings of a catalogue

Every schema gives one function, in the module of its version, and every operator one
dispatcher with an arm for each of its versions.
-/

namespace OnnxForge.Binding

namespace Function

/-- How the input at a position is taken. -/
def kindOf (schema : Schema) (input : OnnxForge.Parameter) (index : Nat) : ParameterKind :=
  match input.occurrence with
  | .variadic => .variadic
  | _ => if index < schema.minInput then .required else .optional

/-- The parameters of the inputs of a schema. -/
def parametersOf (schema : Schema) : List Parameter :=
  (schema.inputs.zipIdx.zip (parameterNames (schema.inputs.map (·.name)))).map
    fun ((input, index), name) => ⟨name, kindOf schema input index⟩

/-- The parameter of the first input of that name. -/
def parameterOf? (schema : Schema) (input : String) : Option String :=
  (((schema.inputs.map (·.name)).zip (parameterNames (schema.inputs.map (·.name)))).find?
    fun (label, _) => label == input).map (·.2)

/-- Where the number of outputs of a node of a schema comes from. Only a split does not
have the declared ones. -/
def countRuleOf (schema : Schema) : CountRule :=
  if !schema.isOf "Split" "" then .declared
  else
    match parameterOf? schema "split" with
    | none => .splitAttribute
    | some sizes =>
      if schema.sinceVersion < 13 then .splitAttributeOrInput sizes
      else if (schema.attribute? "num_outputs").isSome then .splitInputOrNumber sizes
      else .splitInput sizes

def ofSchema (schema : Schema) : Function where
  name := functionName schema.name schema.domain
  operator := schema.name
  domain := schema.domain
  version := schema.sinceVersion
  parameters := parametersOf schema
  countRule := countRuleOf schema

end Function

namespace Dispatcher

def ofOperator (catalogue : Catalogue) (operator domain : String) : Dispatcher where
  name := functionName operator domain
  operator
  domain
  arms := (catalogue.versionsOf operator domain).map .ofSchema

end Dispatcher

/-- The versions that schemas of a catalogue came with, increasing. -/
def versions (catalogue : Catalogue) : List Int64 :=
  ((catalogue.schemas.map (·.sinceVersion)).mergeSort fun a b => decide (a ≤ b)).eraseReps

/-- The operators of a catalogue with their domains, in order. -/
def operatorsOf (catalogue : Catalogue) : List (String × String) :=
  (catalogue.schemas.map fun schema => (schema.name, schema.domain)).eraseReps

/-- The functions that a version brought. -/
def VersionModule.ofVersion (catalogue : Catalogue) (version : Int64) : VersionModule where
  version
  functions :=
    (catalogue.schemas.filter fun schema => schema.sinceVersion == version).map .ofSchema

def Bindings.ofCatalogue (catalogue : Catalogue) : Bindings where
  modules := (versions catalogue).map (.ofVersion catalogue)
  dispatchers := (operatorsOf catalogue).map fun (operator, domain) =>
    .ofOperator catalogue operator domain
  operators := catalogue.operatorNames

end OnnxForge.Binding

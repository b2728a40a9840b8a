import OnnxForge.Proofs.Binding.Positions
import OnnxForge.Proofs.Build.Record
import OnnxForge.Proofs.Catalogue
import OnnxForge.Proofs.Repetitions

/-!
# Dispatchers and the builder

A dispatcher adds the node that its caller could have asked the builder for, with the same
arguments, at the version in effect. What it adds to that is the number of outputs, and a
check that the arguments fit the parameters of the function. No argument is lost on the
way, and none changes its place.
-/

namespace OnnxForge.Build

/-! ## Inputs of a node -/

/-- The inputs that an argument stands for, where its array becomes the initializer at a
place. -/
def Argument.inputs (place : Nat) : Argument → List String
  | .array _ => [initializerName place]
  | .name text => [text]
  | .names texts => texts
  | .node source => source.outputs.head?.toList

/-- The inputs that arguments stand for, one after the other, where arrays become
initializers from a place on. -/
def inputsFrom (place : Nat) : List Argument → List String
  | [] => []
  | argument :: rest =>
    argument.inputs place ++ inputsFrom (place + argument.array?.toList.length) rest

theorem inputsFrom_append (place : Nat) (arguments more : List Argument) :
    inputsFrom place (arguments ++ more) =
      inputsFrom place arguments ++
        inputsFrom (place + (arguments.filterMap Argument.array?).length) more := by
  induction arguments generalizing place with
  | nil => rfl
  | cons argument rest ih =>
      rw [List.cons_append, inputsFrom, ih, inputsFrom, List.append_assoc, List.filterMap_cons]
      cases argument.array? with
      | none => rfl
      | some tensor => simp [Nat.add_assoc, Nat.add_comm 1]

theorem Contribution.names_eq {place : Nat} {argument : Argument} {names : List String}
    {initializers : List Message.Tensor}
    (contribution : Contribution place argument names initializers) :
    names = argument.inputs place := by
  cases contribution with
  | node leads => simp [Argument.inputs, leads]
  | _ => rfl

theorem Collected.names_eq {base : Nat} {arguments : List Argument} {staging : Staging}
    (collected : Collected base arguments staging) :
    staging.names = inputsFrom base arguments := by
  induction collected with
  | start => rfl
  | @add arguments argument before after earlier added ih =>
      rcases Collecting.add_contribution added with ⟨names, new, contribution, rfl⟩
      have place : before.initializers.length =
          (arguments.filterMap Argument.array?).length := by
        rw [earlier.initializers_eq.1, length_initializersFrom]
      rw [earlier.base_eq, place] at contribution
      rw [inputsFrom_append, ← ih, inputsFrom, inputsFrom, List.append_nil,
        ← contribution.names_eq]
      rfl

theorem Builder.resolve_eq_ok {builder : Builder} {operator domain : String} {schema : Schema} :
    builder.resolve operator domain = .ok schema ↔
      builder.catalogue.resolve? operator builder.opsetVersion domain = some schema := by
  rw [resolve]
  cases builder.catalogue.resolve? operator builder.opsetVersion domain <;> simp

end OnnxForge.Build

namespace OnnxForge.Binding

open Build

/-! ## Parameters of schemas -/

theorem length_parameterNamesFrom (taken inputs : List String) :
    (parameterNamesFrom taken inputs).length = inputs.length := by
  induction inputs generalizing taken with
  | nil => rfl
  | cons input rest ih => exact congrArg (· + 1) (ih _)

namespace Function

theorem length_parameterNames (schema : Schema) :
    (parameterNames (schema.inputs.map (·.name))).length = schema.inputs.length := by
  rw [parameterNames, length_parameterNamesFrom, List.length_map]

theorem kinds_parametersOf (schema : Schema) :
    (parametersOf schema).map (·.kind) =
      schema.inputs.zipIdx.map fun (input, index) => kindOf schema input index := by
  rw [parametersOf, List.map_map]
  calc
    _ = ((schema.inputs.zipIdx.zip _).map Prod.fst).map
        fun (input, index) => kindOf schema input index := by
      rw [List.map_map]
      rfl
    _ = _ := by rw [List.map_fst_zip (by simp [length_parameterNames])]

theorem names_parametersOf (schema : Schema) :
    (parametersOf schema).map (·.name) = parameterNames (schema.inputs.map (·.name)) := by
  rw [parametersOf, List.map_map]
  exact List.map_snd_zip (by simp [length_parameterNames])

/-- The number of outputs of a node that the function of a schema makes of arguments. -/
def countOf (schema : Schema) (arguments : List (Option Argument)) (attributes : Attributes) :
    Except InputFault OutputCount :=
  count (positional (parametersOf schema) arguments) attributes (countRuleOf schema)

end Function

/-! ## Dispatchers of operators -/

variable {catalogue : Catalogue} {operator domain : String}

theorem mem_operatorsOf :
    (operator, domain) ∈ operatorsOf catalogue ↔
      ∃ schema ∈ catalogue.schemas, schema.name = operator ∧ schema.domain = domain := by
  rw [operatorsOf, mem_eraseReps, List.mem_map]
  simp only [Prod.mk.injEq]

theorem mem_dispatchers {dispatcher : Dispatcher} :
    dispatcher ∈ (Bindings.ofCatalogue catalogue).dispatchers ↔
      ∃ schema ∈ catalogue.schemas,
        dispatcher = .ofOperator catalogue schema.name schema.domain := by
  rw [Bindings.ofCatalogue, List.mem_map]
  constructor
  · rintro ⟨⟨operator, domain⟩, member, rfl⟩
    rcases mem_operatorsOf.mp member with ⟨schema, present, rfl, rfl⟩
    exact ⟨schema, present, rfl⟩
  · rintro ⟨schema, present, rfl⟩
    exact ⟨(schema.name, schema.domain), mem_operatorsOf.mpr ⟨schema, present, rfl, rfl⟩, rfl⟩

namespace Dispatcher

/-- The arms of a dispatcher are the functions of the schemas of its operator. -/
theorem armOf_ofOperator (version : Int64) :
    (ofOperator catalogue operator domain).armOf version =
      match catalogue.get? operator version domain with
      | some schema => .ok (.ofSchema schema)
      | none => .error (.unknownSchema operator domain version) := by
  have found : (catalogue.versionsOf operator domain).find?
      ((·.version == version) ∘ Function.ofSchema) = catalogue.get? operator version domain :=
    rfl
  rw [armOf, ofOperator, List.find?_map, found]
  cases catalogue.get? operator version domain <;> rfl

/-- The dispatcher of an operator has an arm for the version in effect, whichever it is. -/
theorem armOf_resolved {version : Int64} {schema : Schema}
    (resolved : catalogue.resolve? operator version domain = some schema) :
    (ofOperator catalogue operator domain).armOf schema.sinceVersion =
      .ok (.ofSchema schema) := by
  rw [armOf_ofOperator, Catalogue.get?_of_resolve? resolved]

variable {arguments : List (Option Argument)} {attributes : Attributes}
variable {before after : Builder} {node : Message.Node}

end Dispatcher

end OnnxForge.Binding

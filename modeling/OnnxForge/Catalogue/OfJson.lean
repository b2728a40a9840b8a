import OnnxForge.Catalogue
import OnnxForge.Json.Reader

/-!
# Catalogues in JSON

A catalogue is stored as an array of records, one for each schema. The domain, the
attributes and whether an attribute is mandatory may be left out.
-/

namespace OnnxForge

namespace Json

/-- The list of records that a value is. -/
def listOf? {α : Type} (read : Json → Option α) (json : Json) : Option (List α) :=
  json.array?.bind fun elements => elements.mapM read

/-- What a field holds, or a default when it is missing. -/
def orDefault? {α : Type} (default : α) (read : Json → Option α) : Option Json → Option α
  | none => some default
  | some json => read json

end Json

/-- The parameter that a record describes. -/
def Parameter.ofJson? (json : Json) : Option Parameter := do
  match ← json.fields? ["name", "option"] with
  | [some name, some occurrence] =>
    return ⟨← name.string?, ← occurrence.word?.bind Occurrence.ofName?⟩
  | _ => none

/-- The attribute declaration that a record describes. -/
def AttributeSpec.ofJson? (json : Json) : Option AttributeSpec := do
  match ← json.fields? ["name", "type", "required"] with
  | [some name, some type, required] =>
    return ⟨← name.string?, ← type.word?.bind AttributeType.ofName?,
      ← Json.orDefault? false Json.bool? required⟩
  | _ => none

/-- The schema that a record describes. -/
def Schema.ofJson? (json : Json) : Option Schema := do
  match ← json.fields? ["name", "domain", "since_version", "min_input", "max_input",
      "min_output", "max_output", "inputs", "outputs", "attributes"] with
  | [some name, domain, some sinceVersion, some minInput, some maxInput, some minOutput,
      some maxOutput, some inputs, some outputs, attributes] =>
    return {
      name := ← name.string?
      domain := ← Json.orDefault? "" Json.string? domain
      sinceVersion := ← sinceVersion.int64?
      minInput := (← minInput.uint64?).toNat
      maxInput := (← maxInput.uint64?).toNat
      minOutput := (← minOutput.uint64?).toNat
      maxOutput := (← maxOutput.uint64?).toNat
      inputs := ← inputs.listOf? Parameter.ofJson?
      outputs := ← outputs.listOf? Parameter.ofJson?
      attributes := ← Json.orDefault? [] (Json.listOf? AttributeSpec.ofJson?) attributes }
  | _ => none

namespace Catalogue

/-- The catalogue that an array of records describes. -/
def ofJson? (json : Json) : Option Catalogue :=
  (json.listOf? Schema.ofJson?).map ofList

def parse? (text : String) : Option Catalogue :=
  (Json.parse? text).bind ofJson?

end Catalogue

end OnnxForge

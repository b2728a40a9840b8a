import OnnxForge.AttributeType

/-!
# Schemas

The signature of an operator from one version of its operator set on: its inputs and
outputs, how many of each a node may have, and its attributes.
-/

namespace OnnxForge

/-- How often a parameter may occur. -/
inductive Occurrence
  | single
  | optional
  | variadic
deriving DecidableEq

namespace Occurrence

/-- Every kind of occurrence. -/
def all : List Occurrence :=
  [.single, .optional, .variadic]

/-- The name that catalogues use. -/
def name : Occurrence → String
  | .single => "single"
  | .optional => "optional"
  | .variadic => "variadic"

/-- The kind of occurrence of that exact name. -/
def ofName? (name : String) : Option Occurrence :=
  all.find? fun occurrence => occurrence.name == name

end Occurrence

/-- A declared input or output. -/
structure Parameter where
  name : String
  occurrence : Occurrence
deriving DecidableEq

namespace Parameter

/-- A parameter that occurs once. -/
def single (name : String) : Parameter := ⟨name, .single⟩

/-- A parameter that may be missing. -/
def optional (name : String) : Parameter := ⟨name, .optional⟩

/-- A parameter that occurs any number of times. -/
def variadic (name : String) : Parameter := ⟨name, .variadic⟩

end Parameter

/-- A declared attribute. -/
structure AttributeSpec where
  name : String
  type : AttributeType
  required : Bool
deriving DecidableEq

namespace AttributeSpec

/-- An attribute that has to be given. -/
def mandatory (name : String) (type : AttributeType) : AttributeSpec := ⟨name, type, true⟩

/-- An attribute that may be missing. -/
def optional (name : String) (type : AttributeType) : AttributeSpec := ⟨name, type, false⟩

end AttributeSpec

/-- The count that stands for any number of inputs or outputs. -/
def unbounded : Nat := 2147483647

/-- The signature of an operator. -/
structure Schema where
  name : String
  domain : String := ""
  /-- The version of the operator set that brought the signature. -/
  sinceVersion : Int64
  minInput : Nat
  maxInput : Nat
  minOutput : Nat
  maxOutput : Nat
  inputs : List Parameter
  outputs : List Parameter
  attributes : List AttributeSpec := []
deriving DecidableEq

namespace Schema

/-- The first declaration of an attribute of that name. -/
def attribute? (schema : Schema) (name : String) : Option AttributeSpec :=
  schema.attributes.find? fun spec => spec.name == name

/-- Whether an input of that name is declared. -/
def hasInput (schema : Schema) (name : String) : Bool :=
  schema.inputs.any fun input => input.name == name

/-- Whether a schema is one of an operator. -/
def isOf (schema : Schema) (name domain : String) : Bool :=
  schema.name == name && schema.domain == domain

/-- The order of schemas: by name, then by domain, then by version. -/
def Precedes (a b : Schema) : Prop :=
  a.name < b.name ∨ (a.name = b.name ∧
    (a.domain < b.domain ∨ (a.domain = b.domain ∧ a.sinceVersion < b.sinceVersion)))

instance (a b : Schema) : Decidable (a.Precedes b) :=
  inferInstanceAs (Decidable (_ ∨ _))

/-- Whether two schemas are of one operator and one version. -/
def SameKey (a b : Schema) : Prop :=
  a.name = b.name ∧ a.domain = b.domain ∧ a.sinceVersion = b.sinceVersion

instance (a b : Schema) : Decidable (a.SameKey b) :=
  inferInstanceAs (Decidable (_ ∧ _))

theorem Precedes.trans {a b c : Schema} (first : a.Precedes b) (second : b.Precedes c) :
    a.Precedes c := by
  rcases first with name₁ | ⟨name₁, domain₁ | ⟨domain₁, version₁⟩⟩ <;>
    rcases second with name₂ | ⟨name₂, domain₂ | ⟨domain₂, version₂⟩⟩
  · exact .inl (String.lt_trans name₁ name₂)
  · exact .inl (name₂ ▸ name₁)
  · exact .inl (name₂ ▸ name₁)
  · exact .inl (name₁ ▸ name₂)
  · exact .inr ⟨name₁.trans name₂, .inl (String.lt_trans domain₁ domain₂)⟩
  · exact .inr ⟨name₁.trans name₂, .inl (domain₂ ▸ domain₁)⟩
  · exact .inl (name₁ ▸ name₂)
  · exact .inr ⟨name₁.trans name₂, .inl (domain₁ ▸ domain₂)⟩
  · exact .inr ⟨name₁.trans name₂, .inr ⟨domain₁.trans domain₂, Int64.lt_trans version₁ version₂⟩⟩

theorem precedes_of_not {a b : Schema} (notBefore : ¬ a.Precedes b) (different : ¬ a.SameKey b) :
    b.Precedes a := by
  by_cases name : a.name = b.name
  · by_cases domain : a.domain = b.domain
    · refine .inr ⟨name.symm, .inr ⟨domain.symm, ?_⟩⟩
      have notLess : ¬ a.sinceVersion < b.sinceVersion := fun less =>
        notBefore (.inr ⟨name, .inr ⟨domain, less⟩⟩)
      exact Int64.lt_of_le_of_ne (Int64.not_lt.1 notLess) fun same =>
        different ⟨name, domain, same.symm⟩
    · refine .inr ⟨name.symm, .inl ?_⟩
      have notLess : ¬ a.domain < b.domain := fun less => notBefore (.inr ⟨name, .inl less⟩)
      exact Std.lt_of_le_of_ne (String.not_lt.1 notLess) (Ne.symm domain)
  · have notLess : ¬ a.name < b.name := fun less => notBefore (.inl less)
    exact .inl (Std.lt_of_le_of_ne (String.not_lt.1 notLess) (Ne.symm name))

end Schema

end OnnxForge

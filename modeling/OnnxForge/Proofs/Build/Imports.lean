import OnnxForge.Catalogue.Builtin.Arithmetic
import OnnxForge.Domain
import OnnxForge.Proofs.Build.Session

/-!
# Imports of a model

A model imports the default operator set alone, at the version of its builder. Nodes may be
made of every schema of the catalogue, and one of another domain has no import to go by.
-/

namespace OnnxForge

theorem Catalogue.isOf_of_get? {catalogue : Catalogue} {name domain : String} {version : Int64}
    {schema : Schema} (found : catalogue.get? name version domain = some schema) :
    schema ∈ catalogue.schemas ∧ schema.isOf name domain = true :=
  List.mem_filter.mp (List.mem_of_find?_eq_some found)

namespace Build

/-- An import serves the nodes of its domain. The default domain has two spellings. -/
def Serves (imported : Message.OperatorSet) (node : Message.Node) : Prop :=
  imported.domain = node.domain ∨
    (isDefaultDomain imported.domain = true ∧ isDefaultDomain node.domain = true)

/-- Every node of the graph is of an operator of the catalogue. -/
def KnownOperators (catalogue : Catalogue) (builder : Builder) : Prop :=
  builder.catalogue = catalogue ∧
    ∀ node ∈ builder.graph.nodes,
      ∃ schema ∈ catalogue.schemas, schema.isOf node.opType node.domain = true

theorem Effect.knownOperators {catalogue : Catalogue} {arguments : List Argument}
    {before after : Builder} {answer : Option Answer}
    (effect : Effect arguments before answer after) (known : KnownOperators catalogue before) :
    KnownOperators catalogue after := by
  rcases known with ⟨same, nodes⟩
  cases effect with
  | node committed =>
      rcases committed with ⟨found, collected, made, conforms⟩
      refine ⟨same, List.forall_mem_append.mpr ⟨nodes, List.forall_mem_singleton.mpr ?_⟩⟩
      rw [same] at found
      have ⟨member, isOf⟩ := Catalogue.isOf_of_get? found
      rw [made]
      exact ⟨_, member, isOf⟩
  | _ => exact ⟨same, nodes⟩

/-- The import of a model serves the nodes of the default domain. -/
theorem Builder.ImportsOwn.serves_iff {builder : Builder} (own : builder.ImportsOwn)
    (node : Message.Node) :
    (∃ imported ∈ builder.model.opsetImport, Serves imported node) ↔
      isDefaultDomain node.domain = true := by
  rw [ImportsOwn] at own
  simp only [model, own, List.mem_singleton, exists_eq_left, Serves]
  constructor
  · rintro (same | ⟨_, default⟩)
    · rw [← same]
      rfl
    · exact default
  · exact fun default => .inr ⟨rfl, default⟩

namespace Session

/--
A model imports the default operator set at the version of its builder, and nothing else.  Its
nodes are of operators of the catalogue, and the import serves those of the default domain
alone, which are all of them where the catalogue has no other domain.
-/
theorem imports_default_alone (catalogue : Catalogue) (calls : List Call) :
    let builder := ((start catalogue).run calls).builder
    builder.model.opsetImport = [{ domain := "", version := builder.opsetVersion }] ∧
    (∀ node ∈ builder.graph.nodes,
      (∃ schema ∈ catalogue.schemas, schema.isOf node.opType node.domain = true) ∧
      ((∃ imported ∈ builder.model.opsetImport, Serves imported node) ↔
        isDefaultDomain node.domain = true)) ∧
    ((∀ schema ∈ catalogue.schemas, isDefaultDomain schema.domain = true) →
      ∀ node ∈ builder.graph.nodes,
        ∃ imported ∈ builder.model.opsetImport, Serves imported node) := by
  intro builder
  have known : KnownOperators catalogue builder :=
    (honest_start catalogue).builder_invariant (KnownOperators catalogue)
      Effect.knownOperators ⟨rfl, by simp [start, Builder.start]⟩ calls
  have own : builder.ImportsOwn := importsOwn_run catalogue calls
  refine ⟨own, fun node member => ⟨known.2 node member, own.serves_iff node⟩, ?_⟩
  intro default node member
  rcases known.2 node member with ⟨schema, present, isOf⟩
  have domain : schema.domain = node.domain := by
    rw [Schema.isOf, Bool.and_eq_true] at isOf
    exact eq_of_beq isOf.2
  exact (own.serves_iff node).mpr (domain ▸ default schema present)

/-- The import serves a node of the builtin operators. -/
theorem imports_default_alone_of_absolute :
    let builder := ((start (.ofList Catalogue.Builtin.absVersions)).run
      [.addNode "Abs" "" 13 [some (.name "x")] .declared .empty]).builder
    ∃ node, builder.graph.nodes = [node] ∧
      ∃ imported ∈ builder.model.opsetImport, Serves imported node := by
  intro builder
  have served := (imports_default_alone (.ofList Catalogue.Builtin.absVersions)
    [.addNode "Abs" "" 13 [some (.name "x")] .declared .empty]).2.2 (by decide)
  exact ⟨_, rfl, served _ List.mem_cons_self⟩

/-- A schema of a domain of its own. -/
def scalerSchema : Schema :=
  { name := "Scaler", domain := "ai.onnx.ml", sinceVersion := 1
    minInput := 1, maxInput := 1, minOutput := 1, maxOutput := 1
    inputs := [.single "X"]
    outputs := [.single "Y"] }

/-- A node of another domain is made, and no import serves it. -/
theorem scaler_not_served :
    let builder := ((start (.ofList [scalerSchema])).run
      [.addNode "Scaler" "ai.onnx.ml" 1 [some (.name "x")] .declared .empty]).builder
    ∃ node, builder.graph.nodes = [node] ∧
      ¬ ∃ imported ∈ builder.model.opsetImport, Serves imported node := by
  intro builder
  refine ⟨_, rfl, ?_⟩
  rw [(importsOwn_run _ _).serves_iff]
  decide

end Session

end Build

end OnnxForge

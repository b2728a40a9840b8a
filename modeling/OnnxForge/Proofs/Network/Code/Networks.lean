import OnnxForge.Proofs.Network.Code.Modules
import OnnxForge.Proofs.Network.Proper
import OnnxForge.Proofs.Repetitions

/-!
# Reading networks

The code of a network is read back as what it was written from: its fields with their types,
the values that its constructor binds, the parameters and the assignments of its function, and
what this returns. No comment and no blank line changes what is read.
-/

namespace OnnxForge

open Source Token

namespace Network

variable {network : Network}

/-- What the code of a network tells. -/
def listing (network : Network) : Listing where
  fields :=
    (network.layers.map fun layer => (layer.name, .embedding)) ++
      (network.constants.map fun constant => (constant.name, .parameter constant.type)) ++
      [("phantom", .phantom), ("device", .device)]
  setUp :=
    (network.constants.map fun constant => (constant.name, constant.valueCode)) ++
      network.layers.map fun layer => (layer.name, layer.valueCode)
  built := network.fields.map (·.1) ++ ["phantom", "device"]
  inputs := network.inputs
  results := network.results
  assignments := network.assignments
  returned := network.returned

/-! ## The structure -/

/-- All fields that the structure of a network declares, with their types. -/
def declarations (network : Network) : List (String × List Token) :=
  network.fields ++
    [("phantom", scan "core::marker::PhantomData<B>"),
      ("device", scan "burn::module::Ignored<B::Device>")]

theorem structureCode_eq (network : Network) :
    network.structureCode = scan "#[derive(Module, Debug)] pub struct Model<B: Backend>" ++
      braces (commaSeparated (network.declarations.map fun field =>
        declarationCode field.1 field.2)) := by
  have phantom : scan "phantom: core::marker::PhantomData<B>" =
      declarationCode "phantom" (scan "core::marker::PhantomData<B>") := by
    decide +kernel
  have device : scan "device: burn::module::Ignored<B::Device>" =
      declarationCode "device" (scan "burn::module::Ignored<B::Device>") := by
    decide +kernel
  rw [structureCode, declarations, List.map_append, phantom, device]
  rfl

theorem map_fst_declarations (network : Network) :
    network.declarations.map (·.1) =
      network.layers.map (·.name) ++ (network.constants.map (·.name) ++ ["phantom", "device"]) := by
  rw [declarations, fields, List.map_append, List.map_append, List.map_map, List.map_map,
    List.append_assoc]
  rfl

theorem declarations_eq (network : Network) :
    network.declarations = network.listing.fields.map fun field => (field.1, field.2.code) := by
  rw [declarations, fields, listing, List.map_append, List.map_append, List.map_map, List.map_map]
  rfl

theorem map_declarationCode (network : Network) :
    (network.declarations.map fun field => declarationCode field.1 field.2) =
      network.listing.fields.map fun field => declarationCode field.1 field.2.code := by
  rw [declarations_eq, List.map_map]
  rfl

/-- The fields of the structure are read, from after its keyword. -/
theorem structure?_code (network : Network) (rest : List Token) :
    structure? (scan "Model<B: Backend>" ++ braces (commaSeparated
        (network.declarations.map fun field => declarationCode field.1 field.2)) ++ rest) =
      some (network.listing.fields, rest) := by
  have passes : ∀ item ∈ network.listing.fields.map (fun field =>
      declarationCode field.1 field.2.code), item ≠ [] ∧ Passes '\x7d' 0 item :=
    List.forall_mem_map.mpr fun field _ =>
      ⟨List.cons_ne_nil _ _, passes_declarationCode field.1 (by decide) (passes_code field.2)⟩
  have items := itemsUntil?_commaSeparated (by decide) passes rest
  have read := mapM_map_eq_self fun field (_ : field ∈ network.listing.fields) =>
    field?_declarationCode field
  rw [map_declarationCode, List.append_assoc, braces_append, structure?, dropPrefix?_append_cons]
  simp only [Option.bind_some, Option.bind_eq_bind, items, read]
  rfl

/-! ## The constructor -/

theorem mapM_built? (network : Network) :
    (network.fields.map (fun field => [word field.1]) ++
      [scan "phantom: core::marker::PhantomData",
        scan "device: burn::module::Ignored(device.clone())"]).mapM built? =
      some network.listing.built := by
  have fields : (network.fields.map fun field => [word field.1]).mapM built? =
      some (network.fields.map (·.1)) :=
    mapM_map_eq_some fun _ _ => rfl
  rw [List.mapM_append, fields]
  rfl

/-- The constructor after its keyword. -/
def newCode (network : Network) : List Token :=
  scan "new(device: &B::Device) -> Self" ++
    braces (network.constants.flatMap Constant.setup ++ network.layers.flatMap Layer.setup ++
      word "Self" :: braces (commaSeparated (network.fields.map (fun field => [word field.1]) ++
        [scan "phantom: core::marker::PhantomData",
          scan "device: burn::module::Ignored(device.clone())"])))

theorem flatMap_setUp (network : Network) :
    network.constants.flatMap Constant.setup ++ network.layers.flatMap Layer.setup =
      network.listing.setUp.flatMap fun binding => letCode binding.1 binding.2 := by
  rw [listing, List.flatMap_append, List.flatMap_map, List.flatMap_map]
  rfl

theorem semicolon_setUp (network : Network) :
    ∀ binding ∈ network.listing.setUp, mark ';' ∉ binding.2 := by
  rw [listing, List.forall_mem_append, List.forall_mem_map, List.forall_mem_map]
  exact ⟨fun constant _ => semicolon_parameterCode _ _, fun layer _ => semicolon_layer layer⟩

/-- The fields that the constructor gives a value pass in a list. -/
theorem passes_built (network : Network) :
    ∀ item ∈ network.fields.map (fun field => [word field.1]) ++
        [scan "phantom: core::marker::PhantomData",
          scan "device: burn::module::Ignored(device.clone())"],
      item ≠ [] ∧ Passes '\x7d' 0 item := by
  refine List.forall_mem_append.mpr ⟨List.forall_mem_map.mpr fun field _ => ?_, ?_⟩
  · exact ⟨List.cons_ne_nil _ _, passes_of_plain (List.forall_mem_singleton.mpr (plain_word _))⟩
  · simp only [List.forall_mem_cons]
    exact ⟨⟨by decide, passes_of_plain (by decide +kernel)⟩,
      ⟨by decide, passes_of_plain (by decide +kernel)⟩, List.forall_mem_nil _⟩

/-- The bindings of the constructor and the fields that it gives a value are read from after its
keyword. -/
theorem constructor?_code (network : Network) (rest : List Token) :
    constructor? (network.newCode ++ rest) =
      some (network.listing.setUp, network.listing.built, rest) := by
  let items := network.fields.map (fun field => [word field.1]) ++
    [scan "phantom: core::marker::PhantomData",
      scan "device: burn::module::Ignored(device.clone())"]
  let after := mark '\x7d' :: rest
  have ended : bindings? none (word "Self" :: mark '\x7b' ::
      (commaSeparated items ++ mark '\x7d' :: after)) = some ([], _) :=
    rfl
  have bound := bindings?_flatMap network.semicolon_setUp ended
  have opened : (word "Self" :: mark '\x7b' ::
      (commaSeparated items ++ mark '\x7d' :: after)).dropPrefix? [word "Self", mark '\x7b'] =
        some (commaSeparated items ++ mark '\x7d' :: after) :=
    dropPrefix?_append [word "Self", mark '\x7b'] _
  have built := itemsUntil?_commaSeparated (by decide) network.passes_built after
  have closed : after.dropPrefix? [mark '\x7d'] = some rest :=
    dropPrefix?_append [mark '\x7d'] rest
  rw [newCode, List.append_assoc, braces_append, List.append_assoc, List.cons_append,
    braces_append, flatMap_setUp, constructor?, dropPrefix?_append_cons]
  simp only [Option.bind_eq_bind, Option.bind_some, bound, opened, built, closed, mapM_built?,
    items, after]
  rfl

/-! ## The function -/

theorem types?_tupleCode (types : List TensorType) (rest : List Token) :
    types? (tupleCode (types.map typeCode) ++ mark '\x7b' :: rest) = some (types, rest) := by
  have opened := dropPrefix?_append [mark '\x7b'] rest
  rw [List.singleton_append] at opened
  have tuple : types? (parens (commaSeparated (types.map typeCode)) ++ mark '\x7b' :: rest) =
      some (types, rest) := by
    have passes : ∀ item ∈ types.map typeCode, item ≠ [] ∧ Passes ')' 0 item :=
      List.forall_mem_map.mpr fun type _ =>
        ⟨List.cons_ne_nil _ _, passes_typeCode (by decide) type⟩
    have items := itemsUntil?_commaSeparated (by decide) passes (mark '\x7b' :: rest)
    have read := mapM_map_eq_self fun type (_ : type ∈ types) => type?_typeCode type
    rw [parens_append, types?]
    simp only [items, read, opened, Option.bind_eq_bind, Option.bind_some]
    rfl
  match types with
  | [type] =>
      change (typeThen? (typeCode type ++ mark '\x7b' :: rest)).bind _ = _
      rw [typeThen?_typeCode, Option.bind_some]
      simp only [opened]
      rfl
  | [] | _ :: _ :: _ => exact tuple

/-- The parameters of the function pass in a list, the module itself first. -/
theorem passes_parameters (network : Network) :
    ∀ item ∈ scan "&self" ::
        network.inputs.map fun input => declarationCode input.name (typeCode input.type),
      item ≠ [] ∧ Passes ')' 0 item := by
  refine List.forall_mem_cons.mpr ⟨⟨by decide, passes_of_plain (by decide)⟩,
    List.forall_mem_map.mpr fun input _ => ⟨List.cons_ne_nil _ _, ?_⟩⟩
  exact passes_declarationCode input.name (by decide) (passes_typeCode (by decide) input.type)

/-- The bindings of the function are read, up to what is no binding. -/
theorem bindings?_assignments (proper : network.ReadsProper) {rest : List Token}
    (ended : bindings? none rest = some ([], rest)) :
    bindings? none (network.assignments.flatMap Assignment.code ++ rest) =
      some (network.assignments.map fun assignment => (assignment.name, assignment.value.code),
        rest) := by
  have plain : ∀ binding ∈ network.assignments.map fun assignment =>
      (assignment.name, assignment.value.code), mark ';' ∉ binding.2 := by
    refine List.forall_mem_map.mpr fun assignment member => ?_
    exact (reads_code fun name isRead => wordTerm_of_proper
      (proper.assigned assignment member name isRead)).notMem foreign_semicolon
  have bound := bindings?_flatMap plain ended
  rw [List.flatMap_map] at bound
  exact bound

theorem mapM_assignmentOf? (proper : network.ReadsProper) :
    (network.assignments.map fun assignment =>
      (assignment.name, assignment.value.code)).mapM assignmentOf? =
      some network.assignments := by
  refine mapM_map_eq_self fun assignment member => ?_
  rw [assignmentOf?, expression?_code_of_proper (proper.assigned assignment member)]
  rfl

/-- The function after its keyword, with the code that follows it. -/
def forwardCode (network : Network) (rest : List Token) : List Token :=
  scan "forward(" ++ (commaSeparated (scan "&self" ::
      network.inputs.map fun input => declarationCode input.name (typeCode input.type)) ++
    mark ')' :: (scan "->" ++ (tupleCode (network.results.map typeCode) ++ mark '\x7b' ::
      (network.assignments.flatMap Assignment.code ++
        (tupleCode (network.returned.map Expression.code) ++ mark '\x7d' :: rest)))))

/-- What the function has is read from after its keyword. -/
theorem function?_code (proper : network.ReadsProper) (rest : List Token) :
    function? (network.forwardCode rest) =
      some (network.inputs, network.results, network.assignments, network.returned, rest) := by
  let codes := network.inputs.map fun input => declarationCode input.name (typeCode input.type)
  rcases exists_reads_tupleCode proper.returned with ⟨term, reads, values⟩
  have items := itemsUntil?_commaSeparated (by decide) network.passes_parameters (scan "->" ++
    (tupleCode (network.results.map typeCode) ++ mark '\x7b' ::
      (network.assignments.flatMap Assignment.code ++
        (tupleCode (network.returned.map Expression.code) ++ mark '\x7d' :: rest))))
  have parameters : (scan "&self" :: codes).dropPrefix? [scan "&self"] = some codes :=
    dropPrefix?_append [scan "&self"] codes
  have inputs := mapM_map_eq_self fun input (_ : input ∈ network.inputs) =>
    input?_declarationCode input
  have bound := bindings?_assignments proper (reads.bindings?_eq '\x7d' rest)
  have assigned := mapM_assignmentOf? proper
  have ended := until?_append (reads.notMem foreign_brace) rest
  have returned : expressions? (tupleCode (network.returned.map Expression.code)) =
      some network.returned := by
    rw [expressions?, term?, reads]
    exact values
  rw [forwardCode, function?]
  simp only [dropPrefix?_append, Option.bind_eq_bind, Option.bind_some, items, parameters,
    types?_tupleCode, bound, ended, inputs, assigned, returned, codes]
  rfl

/-! ## The whole module -/

theorem word_notMem_blankCode (layout : Layout) {text : String}
    (isOther : text ≠ "_blank_") : word text ∉ layout.blankCode := by
  have blank : scan "_blank_!();" =
      [word "_blank_", mark '!', mark '(', mark ')', mark ';'] := by
    decide
  rw [Layout.blankCode]
  split
  · simpa [blank] using isOther
  · exact List.not_mem_nil

/-- Nothing before the structure is its keyword. -/
theorem struct_notMem (network : Network) (layout : Layout) :
    word "struct" ∉ layout.commentCode ++ (network.importsCode ++ layout.blankCode) := by
  have comment : word "struct" ∉ layout.commentCode := by
    have marker : scan "_comment_!" = [word "_comment_", mark '!'] := by decide
    rw [Layout.commentCode]
    cases layout.comment <;> simp [marker, parens, enclosed]
  have paths : ∀ path ∈ network.imports,
      path ∈ ["burn::nn::Embedding", "burn::nn::EmbeddingConfig"] := by
    intro path member
    rw [imports, mem_eraseReps, List.mem_mergeSort] at member
    rcases List.mem_flatMap.mp member with ⟨layer, _, ofLayer⟩
    rw [Layer.imports] at ofLayer
    split at ofLayer
    · exact List.mem_cons.mpr (.inl (List.mem_singleton.mp ofLayer))
    · exact ofLayer
  have imported : word "struct" ∉ network.importsCode := by
    have known : ∀ path ∈ ["burn::nn::Embedding", "burn::nn::EmbeddingConfig"],
        word "struct" ∉ scan "use" ++ scan path ++ [mark ';'] := by
      decide +kernel
    rw [importsCode, List.mem_append, List.mem_flatMap]
    rintro (always | ⟨path, isPath, within⟩)
    · exact absurd always (by decide)
    · exact known path (paths path isPath) within
  have blank : word "struct" ∉ layout.blankCode := word_notMem_blankCode layout (by decide)
  exact List.not_mem_append comment (List.not_mem_append imported blank)

theorem code_eq (network : Network) (layout : Layout) :
    network.code layout =
      layout.commentCode ++ (network.importsCode ++ (layout.blankCode ++
        scan "#[derive(Module, Debug)] pub")) ++ word "struct" ::
      (scan "Model<B: Backend>" ++ braces (commaSeparated
        (network.declarations.map fun field => declarationCode field.1 field.2)) ++
      (layout.blankCode ++ (scan "impl<B: Backend> Model<B>" ++ mark '\x7b' ::
        scan "#[allow(unused_variables)] pub") ++ word "fn" ::
      (network.newCode ++
      (layout.blankCode ++ scan "#[allow(clippy::let_and_return, clippy::approx_constant)] pub" ++
        word "fn" :: network.forwardCode [mark '\x7d'])))) := by
  have structure' : scan "#[derive(Module, Debug)] pub struct Model<B: Backend>" =
      scan "#[derive(Module, Debug)] pub" ++ word "struct" :: scan "Model<B: Backend>" := by
    decide +kernel
  have constructor' : scan "#[allow(unused_variables)] pub fn new(device: &B::Device) -> Self" =
      scan "#[allow(unused_variables)] pub" ++
        word "fn" :: scan "new(device: &B::Device) -> Self" := by
    decide +kernel
  have function' : scan
      "#[allow(clippy::let_and_return, clippy::approx_constant)] pub fn forward" =
      scan "#[allow(clippy::let_and_return, clippy::approx_constant)] pub" ++
        [word "fn", word "forward"] := by
    decide +kernel
  have forward : scan "forward(" = [word "forward", mark '('] := by decide
  rw [code, structureCode_eq, constructorCode, functionCode, newCode, forwardCode, structure',
    constructor', function', forward]
  simp only [braces, parens, enclosed, List.append_assoc, List.cons_append, List.nil_append]

/-- What is read of the code of a network is what the network was written from. -/
theorem module?_code (proper : network.ReadsProper) (layout : Layout) :
    module? (network.code layout) = some network.listing := by
  have blank : word "fn" ∉ layout.blankCode := word_notMem_blankCode layout (by decide)
  have ahead : word "struct" ∉ layout.commentCode ++ (network.importsCode ++ (layout.blankCode ++
      scan "#[derive(Module, Debug)] pub")) := by
    have absent := network.struct_notMem layout
    have derive : word "struct" ∉ scan "#[derive(Module, Debug)] pub" := by decide +kernel
    rw [← List.append_assoc, ← List.append_assoc, List.append_assoc _ network.importsCode]
    exact List.not_mem_append absent derive
  have between : word "fn" ∉ layout.blankCode ++ (scan "impl<B: Backend> Model<B>" ++
      mark '\x7b' :: scan "#[allow(unused_variables)] pub") :=
    List.not_mem_append blank (by decide +kernel)
  have gap : word "fn" ∉ layout.blankCode ++
      scan "#[allow(clippy::let_and_return, clippy::approx_constant)] pub" :=
    List.not_mem_append blank (by decide +kernel)
  rw [code_eq, module?, until?_append ahead]
  simp only [Option.bind_eq_bind, Option.bind_some, structure?_code, until?_append between,
    constructor?_code, until?_append gap, function?_code proper]
  rfl

/-- The code of a compiled network tells what the network was compiled to. -/
theorem module?_of_ofGraph {setting : Setting} {generators : Generators}
    (compiled : ofGraph setting generators = .ok network) (layout : Layout) :
    module? (network.code layout) = some network.listing :=
  module?_code (readsProper_of_ofGraph compiled) layout

end Network

end OnnxForge

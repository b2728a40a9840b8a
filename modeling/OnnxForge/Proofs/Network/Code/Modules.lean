import Mathlib.Data.List.Basic
import OnnxForge.Proofs.Network.Code.Expressions
import OnnxForge.Proofs.Repetitions

/-!
# Reading modules

A module of generated code is read from its first token to its last. Its structure tells the
fields with their types; its constructor binds names and gives those that the structure is made
of; and its function has parameters, binds the values of expressions, and returns some. What is
read of the code of a network is what the network was written from, whatever comment and blank
lines stand between its parts.
-/

namespace OnnxForge

open Source Token

/-! ## What a module tells -/

/-- The types of fields. -/
inductive FieldType
  | embedding
  | parameter (type : TensorType)
  /-- A field that only stands for the machine that runs the code. -/
  | phantom
  | device
deriving DecidableEq

/-- The code of the type of a field. -/
def FieldType.code : FieldType → List Token
  | embedding => scan "Embedding<B>"
  | parameter type => scan "burn::module::Param<" ++ Network.typeCode type ++ [mark '>']
  | phantom => scan "core::marker::PhantomData<B>"
  | device => scan "burn::module::Ignored<B::Device>"

/-- What stands in a module. -/
structure Listing where
  /-- The fields of the structure, with their types. -/
  fields : List (String × FieldType)
  /-- The names that the constructor binds, with the code of their values. -/
  setUp : List (String × List Token)
  /-- The fields that the constructor gives a value. -/
  built : List String
  /-- The parameters of the function besides the module itself. -/
  inputs : List Network.Input
  /-- The types of the values that the function returns. -/
  results : List TensorType
  assignments : List Network.Assignment
  returned : List Network.Expression

namespace Source

/-! ## Lists of declarations -/

/-- How many angle brackets are open after a token. -/
def nested (token : Token) (depth : Nat) : Nat :=
  if token = mark '<' then depth + 1
  else if token = mark '>' then depth - 1
  else depth

/-- The items of a list up to its closing mark, and the tokens after it. A comma in angle
brackets separates no items. The first item has begun with the given tokens. -/
def itemsUntil? (closing : Char) (depth : Nat) :
    (begun : List Token) → List Token → Option (List (List Token) × List Token)
  | _, [] => none
  | begun, token :: rest =>
    if depth = 0 ∧ token = mark closing then some (if begun = [] then [] else [begun], rest)
    else if depth = 0 ∧ token = mark ',' then
      (itemsUntil? closing 0 [] rest).map fun (items, after) => (begun :: items, after)
    else itemsUntil? closing (nested token depth) (begun ++ [token]) rest

/-- The tokens before the first of the given ones, and those after it. -/
def until? (token : Token) : List Token → Option (List Token × List Token)
  | [] => none
  | first :: rest =>
    if first = token then some ([], rest)
    else (until? token rest).map fun (before, after) => (first :: before, after)

/-! ## Types -/

/-- The type of a tensor, and the tokens after it. -/
def typeThen? : List Token → Option (TensorType × List Token)
  | word "Tensor" :: mark '<' :: word "B" :: mark ',' :: rank :: rest => do
    let rank ← number? rank
    let (kind, after) ← kind? rest
    return (⟨rank, kind⟩, after)
  | _ => none

/-- The type of a tensor. -/
def type? (code : List Token) : Option TensorType :=
  match typeThen? code with
  | some (type, []) => some type
  | _ => none

/-- The types of several tensors, or of a single one, up to an opening brace. -/
def types? : List Token → Option (List TensorType × List Token)
  | mark '(' :: rest => do
    let (items, rest) ← itemsUntil? ')' 0 [] rest
    return (← items.mapM type?, ← rest.dropPrefix? [mark '\x7b'])
  | code => do
    let (type, rest) ← typeThen? code
    return ([type], ← rest.dropPrefix? [mark '\x7b'])

/-- The type of a field. -/
def fieldType? (code : List Token) : Option FieldType :=
  if code = scan "Embedding<B>" then some .embedding
  else if code = scan "core::marker::PhantomData<B>" then some .phantom
  else if code = scan "burn::module::Ignored<B::Device>" then some .device
  else do
    let (type, rest) ← typeThen? (← code.dropPrefix? (scan "burn::module::Param<"))
    if rest = [mark '>'] then return .parameter type else none

/-! ## Parts of a module -/

/-- A name and what a colon separates it from. -/
def declaration? : List Token → Option (String × List Token)
  | word name :: mark ':' :: rest => some (name, rest)
  | _ => none

/-- A field with its type. -/
def field? (code : List Token) : Option (String × FieldType) := do
  let (name, type) ← declaration? code
  return (name, ← fieldType? type)

/-- A parameter with its type. -/
def input? (code : List Token) : Option Network.Input := do
  let (name, type) ← declaration? code
  return ⟨name, ← type? type⟩

/-- A field that is given the value of its name, or another one. -/
def built? : List Token → Option String
  | [word name] => some name
  | word name :: mark ':' :: _ => some name
  | _ => none

/-- The fields of a structure, after its keyword. -/
def structure? (code : List Token) : Option (List (String × FieldType) × List Token) := do
  let rest ← code.dropPrefix? (scan "Model<B: Backend>" ++ [mark '\x7b'])
  let (items, rest) ← itemsUntil? '\x7d' 0 [] rest
  return (← items.mapM field?, rest)

/-- The bindings of a constructor and the fields that it gives a value, after its keyword. -/
def constructor? (code : List Token) :
    Option (List (String × List Token) × List String × List Token) := do
  let rest ← code.dropPrefix? (scan "new(device: &B::Device) -> Self" ++ [mark '\x7b'])
  let (setUp, rest) ← bindings? none rest
  let (items, rest) ← itemsUntil? '\x7d' 0 [] (← rest.dropPrefix? [word "Self", mark '\x7b'])
  return (setUp, ← items.mapM built?, ← rest.dropPrefix? [mark '\x7d'])

/-- The parameters of a function, the types of its results, its assignments and what it returns,
after its keyword. -/
def function? (code : List Token) :
    Option (List Network.Input × List TensorType × List Network.Assignment ×
      List Network.Expression × List Token) := do
  let rest ← code.dropPrefix? (scan "forward(")
  let (items, rest) ← itemsUntil? ')' 0 [] rest
  let parameters ← items.dropPrefix? [scan "&self"]
  let (results, rest) ← types? (← rest.dropPrefix? (scan "->"))
  let (bound, rest) ← bindings? none rest
  let (returned, rest) ← until? (mark '\x7d') rest
  return (← parameters.mapM input?, results, ← bound.mapM assignmentOf?,
    ← expressions? returned, rest)

/-- What code tells of its module. -/
def module? (code : List Token) : Option Listing := do
  let (_, rest) ← until? (word "struct") code
  let (fields, rest) ← structure? rest
  let (_, rest) ← until? (word "fn") rest
  let (setUp, built, rest) ← constructor? rest
  let (_, rest) ← until? (word "fn") rest
  let (inputs, results, assignments, returned, rest) ← function? rest
  if rest = [mark '\x7d'] then
    return { fields, setUp, built, inputs, results, assignments, returned }
  else none

/-! ## Lists are read back -/

variable {closing : Char} {code : List Token} {items : List (List Token)}

/-- Code that goes into an item of a list as a whole, within so many open angle brackets. -/
def Passes (closing : Char) (depth : Nat) (code : List Token) : Prop :=
  ∀ begun rest, itemsUntil? closing depth begun (code ++ rest) =
    itemsUntil? closing depth (begun ++ code) rest

/-- A token that neither opens nor closes angle brackets, and only within them is a comma or the
mark at the end of the list. -/
def Plain (closing : Char) (depth : Nat) (token : Token) : Prop :=
  token ∉ [mark '<', mark '>'] ∧ (depth = 0 → token ∉ [mark closing, mark ','])

instance (closing : Char) (depth : Nat) (token : Token) : Decidable (Plain closing depth token) :=
  inferInstanceAs (Decidable (_ ∧ _))

variable {depth : Nat}

theorem Passes.append {first second : List Token} (firstPasses : Passes closing depth first)
    (secondPasses : Passes closing depth second) : Passes closing depth (first ++ second) := by
  intro begun rest
  rw [List.append_assoc, firstPasses, secondPasses, List.append_assoc]

theorem passes_of_plain (plain : ∀ token ∈ code, Plain closing depth token) :
    Passes closing depth code := by
  induction code with
  | nil => exact fun begun rest => by rw [List.nil_append, List.append_nil]
  | cons token others ih =>
      have ⟨⟨noBracket, open'⟩, plainOthers⟩ := List.forall_mem_cons.mp plain
      intro begun rest
      simp only [List.mem_cons, List.not_mem_nil, or_false, not_or] at noBracket open'
      rw [List.cons_append, itemsUntil?, if_neg fun ends => (open' ends.1).1 ends.2,
        if_neg fun ends => (open' ends.1).2 ends.2, nested, if_neg noBracket.1,
        if_neg noBracket.2, ih plainOthers, List.append_assoc, List.singleton_append]

/-- What passes in angle brackets passes with them. -/
theorem Passes.angles (apart : closing ≠ '<') (inner : Passes closing (depth + 1) code) :
    Passes closing depth (mark '<' :: (code ++ [mark '>'])) := by
  intro begun rest
  have noList : mark '<' ≠ mark closing := fun same => apart (Token.mark.inj same).symm
  have within : depth + 1 ≠ 0 := Nat.succ_ne_zero depth
  rw [List.cons_append, itemsUntil?, if_neg fun ends => noList ends.2,
    if_neg fun ends => absurd ends.2 (by decide), nested, if_pos rfl, List.append_assoc, inner,
    List.singleton_append, itemsUntil?, if_neg fun ends => within ends.1,
    if_neg fun ends => within ends.1, nested, if_neg (by decide), if_pos rfl,
    Nat.add_sub_cancel, List.append_assoc, List.append_assoc]
  rfl

/-- A path with type arguments passes if they pass in angle brackets. -/
theorem Passes.generic {path : List Token} (plain : ∀ token ∈ path, Plain closing depth token)
    (apart : closing ≠ '<') (inner : Passes closing (depth + 1) code) :
    Passes closing depth (path ++ mark '<' :: (code ++ [mark '>'])) :=
  (passes_of_plain plain).append (inner.angles apart)

theorem itemsUntil?_commaSeparated (apart : closing ≠ ',')
    (passes : ∀ item ∈ items, item ≠ [] ∧ Passes closing 0 item) (rest : List Token) :
    itemsUntil? closing 0 [] (commaSeparated items ++ mark closing :: rest) =
      some (items, rest) := by
  have noComma : mark closing ≠ mark ',' := fun same => apart (Token.mark.inj same)
  induction items with
  | nil => rw [commaSeparated, List.nil_append, itemsUntil?, if_pos ⟨rfl, rfl⟩, if_pos rfl]
  | cons item others ih =>
      obtain ⟨⟨begun, first⟩, following⟩ := List.forall_mem_cons.mp passes
      cases others with
      | nil =>
          rw [commaSeparated, first, List.nil_append, itemsUntil?, if_pos ⟨rfl, rfl⟩,
            if_neg begun]
      | cons second others =>
          rw [commaSeparated_cons_cons, List.append_assoc, first, List.nil_append,
            List.cons_append, itemsUntil?, if_neg fun closes => noComma closes.2.symm,
            if_pos ⟨rfl, rfl⟩, ih following]
          rfl

theorem until?_append {token : Token} {before : List Token} (absent : token ∉ before)
    (rest : List Token) : until? token (before ++ token :: rest) = some (before, rest) := by
  induction before with
  | nil => exact if_pos rfl
  | cons first others ih =>
      have ⟨other, absentOthers⟩ := List.ne_and_not_mem_of_not_mem_cons absent
      rw [List.cons_append, until?, if_neg other.symm, ih absentOthers]
      rfl

theorem dropPrefix?_append {α : Type} [BEq α] [LawfulBEq α] (first rest : List α) :
    (first ++ rest).dropPrefix? first = some rest :=
  List.dropPrefix?_eq_some_iff.mpr ⟨first, rfl, beq_self_eq_true first⟩

theorem dropPrefix?_append_cons (first rest : List Token) (token : Token) :
    (first ++ token :: rest).dropPrefix? (first ++ [token]) = some rest := by
  rw [← List.singleton_append (x := token), ← List.append_assoc]
  exact dropPrefix?_append _ _

theorem braces_append (code rest : List Token) :
    braces code ++ rest = mark '\x7b' :: (code ++ mark '\x7d' :: rest) := by
  rw [braces, enclosed, List.append_assoc, List.singleton_append, List.cons_append]

theorem parens_append (code rest : List Token) :
    parens code ++ rest = mark '(' :: (code ++ mark ')' :: rest) := by
  rw [parens, enclosed, List.append_assoc, List.singleton_append, List.cons_append]

/-! ## Types are read back -/

theorem typeCode_eq (type : TensorType) :
    Network.typeCode type = word "Tensor" :: mark '<' :: word "B" :: mark ',' ::
      Network.naturalCode type.rank :: (Network.kindCode type.kind ++ [mark '>']) := by
  have arguments : scan "<B," = [mark '<', word "B", mark ','] := by decide
  rw [Network.typeCode, Network.tensorArguments, arguments]
  rfl

theorem typeThen?_typeCode (type : TensorType) (rest : List Token) :
    typeThen? (Network.typeCode type ++ rest) = some (type, rest) := by
  have kind := Network.kind?_kindCode type.kind rest
  rw [typeCode_eq]
  simp only [List.cons_append, List.append_assoc, List.nil_append, typeThen?,
    number?_naturalCode, kind]
  rfl

theorem type?_typeCode (type : TensorType) : type? (Network.typeCode type) = some type := by
  have read := typeThen?_typeCode type []
  rw [List.append_nil] at read
  rw [type?, read]

theorem plain_word (text : String) : Plain closing depth (word text) := by
  simp [Plain]

/-- The code of a type passes in lists of all kinds. -/
theorem passes_typeCode (apart : closing ≠ '<') (type : TensorType) :
    Passes closing depth (Network.typeCode type) := by
  have comma : Plain closing (depth + 1) (mark ',') := by simp [Plain]
  have kind : ∀ token ∈ Network.kindCode type.kind, Plain closing (depth + 1) token := by
    have int : scan ", Int" = [mark ',', word "Int"] := by decide
    have bool : scan ", Bool" = [mark ',', word "Bool"] := by decide
    cases type.kind with
    | int => simp [Network.kindCode, int, comma, plain_word]
    | float => exact List.forall_mem_nil _
    | bool => simp [Network.kindCode, bool, comma, plain_word]
  have inner : ∀ token ∈ word "B" :: mark ',' :: Network.naturalCode type.rank ::
      Network.kindCode type.kind, Plain closing (depth + 1) token := by
    simp only [List.forall_mem_cons]
    exact ⟨plain_word _, comma, plain_word _, kind⟩
  have path : ∀ token ∈ [word "Tensor"], Plain closing depth token :=
    List.forall_mem_singleton.mpr (plain_word _)
  rw [typeCode_eq]
  exact .generic path apart (passes_of_plain inner)

theorem code_parameter (type : TensorType) :
    (FieldType.parameter type).code =
      scan "burn::module::Param" ++ mark '<' :: (Network.typeCode type ++ [mark '>']) := by
  have path : scan "burn::module::Param<" = scan "burn::module::Param" ++ [mark '<'] := by decide
  rw [FieldType.code, path, List.append_assoc, List.append_assoc]
  rfl

theorem fieldType?_code (type : FieldType) : fieldType? type.code = some type := by
  cases type with
  | embedding | phantom | device => decide +kernel
  | parameter type =>
      have start : (FieldType.parameter type).code.take 7 = scan "burn::module::Param" := by
        have length : (scan "burn::module::Param").length = 7 := by decide
        rw [code_parameter, List.take_left' length]
      have apart : ∀ other : List Token, other.take 7 ≠ scan "burn::module::Param" →
          (FieldType.parameter type).code ≠ other :=
        fun other different same => different (same ▸ start)
      have read := typeThen?_typeCode type [mark '>']
      rw [fieldType?, if_neg (apart _ (by decide)), if_neg (apart _ (by decide)),
        if_neg (apart _ (by decide)), FieldType.code, List.append_assoc, dropPrefix?_append,
        Option.bind_eq_bind, Option.bind_some, read]
      rfl

/-- The code of the type of a field passes in a list in braces. -/
theorem passes_code (type : FieldType) : Passes '\x7d' 0 type.code := by
  have module : ∀ token ∈ [word "B"], Plain '\x7d' 1 token :=
    List.forall_mem_singleton.mpr (plain_word _)
  cases type with
  | embedding =>
      have code : scan "Embedding<B>" =
          [word "Embedding"] ++ mark '<' :: ([word "B"] ++ [mark '>']) := by
        decide
      rw [FieldType.code, code]
      exact .generic (List.forall_mem_singleton.mpr (plain_word _)) (by decide)
        (passes_of_plain module)
  | phantom =>
      have code : scan "core::marker::PhantomData<B>" =
          scan "core::marker::PhantomData" ++ mark '<' :: ([word "B"] ++ [mark '>']) := by
        decide +kernel
      rw [FieldType.code, code]
      exact .generic (by decide +kernel) (by decide) (passes_of_plain module)
  | device =>
      have code : scan "burn::module::Ignored<B::Device>" =
          scan "burn::module::Ignored" ++ mark '<' :: (scan "B::Device" ++ [mark '>']) := by
        decide +kernel
      rw [FieldType.code, code]
      exact .generic (by decide +kernel) (by decide) (passes_of_plain (by decide +kernel))
  | parameter type =>
      rw [code_parameter]
      exact .generic (by decide +kernel) (by decide) (passes_typeCode (by decide) type)

/-! ## Declarations are read back -/

theorem mapM_map_eq_some {α β γ : Type} {read : β → Option γ} {code : α → β} {make : α → γ}
    {values : List α} (each : ∀ value ∈ values, read (code value) = some (make value)) :
    (values.map code).mapM read = some (values.map make) := by
  induction values with
  | nil => rfl
  | cons value others ih =>
      have ⟨first, following⟩ := List.forall_mem_cons.mp each
      rw [List.map_cons, List.mapM_cons, first, ih following]
      rfl

/-- Values are read back from their codes, one after the other. -/
theorem mapM_map_eq_self {α β : Type} {read : β → Option α} {code : α → β} {values : List α}
    (each : ∀ value ∈ values, read (code value) = some value) :
    (values.map code).mapM read = some values :=
  (mapM_map_eq_some each).trans (congrArg some (List.map_id _))

theorem passes_declarationCode {type : List Token} (name : String) (colon : closing ≠ ':')
    (passes : Passes closing depth type) :
    Passes closing depth (Network.declarationCode name type) := by
  have plain : ∀ token ∈ [word name, mark ':'], Plain closing depth token := by
    have apart : mark ':' ≠ mark closing := fun same => colon (Token.mark.inj same).symm
    simp [Plain, apart]
  exact (passes_of_plain plain).append passes

theorem input?_declarationCode (input : Network.Input) :
    input? (Network.declarationCode input.name (Network.typeCode input.type)) = some input := by
  change (type? (Network.typeCode input.type)).bind _ = _
  rw [type?_typeCode]
  rfl

theorem field?_declarationCode (field : String × FieldType) :
    field? (Network.declarationCode field.1 field.2.code) = some field := by
  change (fieldType? field.2.code).bind _ = _
  rw [fieldType?_code]
  rfl

/-! ## Bindings of values are read back -/

theorem mem_commaSeparated {token : Token} (member : token ∈ commaSeparated items) :
    token = mark ',' ∨ ∃ item ∈ items, token ∈ item := by
  induction items with
  | nil => cases member
  | cons item others ih =>
      cases others with
      | nil => exact .inr ⟨item, List.mem_cons_self, member⟩
      | cons second others =>
          rw [commaSeparated_cons_cons, List.mem_append, List.mem_cons] at member
          rcases member with here | comma | later
          · exact .inr ⟨item, List.mem_cons_self, here⟩
          · exact .inl comma
          · exact (ih later).imp_right fun ⟨other, isOther, within⟩ =>
              ⟨other, List.mem_cons_of_mem _ isOther, within⟩

/-- A list has no semicolon unless an item has. -/
theorem semicolon_commaSeparated (none : ∀ item ∈ items, mark ';' ∉ item) :
    mark ';' ∉ commaSeparated items := by
  intro member
  rcases mem_commaSeparated member with comma | ⟨item, isItem, within⟩
  · exact absurd comma (by decide)
  · exact none item isItem within

theorem semicolon_floatCode (type : String) (format : Ieee.Format) (bits : Nat) :
    mark ';' ∉ Network.floatCode type format bits := by
  rw [Network.floatCode]
  split
  · simp [Network.constantOf]
  · simp [Network.constantOf]
  · rw [Network.signed]
    split <;> simp

theorem semicolon_integerCode (type : String) (bits : Nat) (value : Int) :
    mark ';' ∉ Network.integerCode type bits value := by
  rw [Network.integerCode, Network.signed]
  split
  · simp [Network.constantOf]
  · split <;> simp

theorem semicolon_elementCodes (payload : Payload) :
    ∀ item ∈ Network.elementCodes payload, mark ';' ∉ item := by
  cases payload <;> rw [Network.elementCodes, List.forall_mem_map] <;> intro value _
  case int32 => exact semicolon_integerCode _ _ _
  case int64 => exact semicolon_integerCode _ _ _
  case bool => simp [Network.boolCode]
  case string => simp
  all_goals exact semicolon_floatCode _ _ _

theorem semicolon_kindCode (kind : TensorKind) : mark ';' ∉ Network.kindCode kind := by
  cases kind <;> decide

theorem semicolon_naturalsCode (numbers : List Nat) :
    mark ';' ∉ Network.naturalsCode numbers := by
  have none : mark ';' ∉ commaSeparated (numbers.map fun n => [Network.naturalCode n]) :=
    semicolon_commaSeparated (List.forall_mem_map.mpr fun n _ => by simp [Network.naturalCode])
  simp [Network.naturalsCode, brackets, enclosed, none]

theorem semicolon_parameterCode (tensor : Tensor) (kind : TensorKind) :
    mark ';' ∉ Network.parameterCode tensor kind := by
  have elements := semicolon_commaSeparated (semicolon_elementCodes tensor.payload)
  have scans : ∀ fragment ∈ ["burn::module::Param::from_tensor", "Tensor::", "<B,",
      "::from_data", "TensorData::new", "vec!", ", device"], mark ';' ∉ scan fragment := by
    decide +kernel
  simp only [List.forall_mem_cons] at scans
  simp [Network.parameterCode, Network.tensorCode, Network.tensorArguments, Network.dataCode,
    Network.naturalCode, parens, brackets, enclosed, scans, elements, semicolon_naturalsCode,
    semicolon_kindCode]

theorem semicolon_layer (layer : Network.Layer) : mark ';' ∉ layer.valueCode := by
  rw [Network.Layer.valueCode]
  split
  next tensor =>
    have weight : mark ';' ∉ scan "weight:" := by decide
    simp [braces, enclosed, weight, semicolon_parameterCode]
  next count width =>
    have config : mark ';' ∉ scan "EmbeddingConfig::new" := by decide
    have init : mark ';' ∉ scan ".init(device)" := by decide
    simp [parens, enclosed, commaSeparated, Network.naturalCode, config, init]

/-- The bindings of values without semicolons are read back, up to what is no binding. -/
theorem bindings?_flatMap {bindings : List (String × List Token)} {rest : List Token}
    (plain : ∀ binding ∈ bindings, mark ';' ∉ binding.2)
    (ended : bindings? none rest = some ([], rest)) :
    bindings? none ((bindings.flatMap fun binding => Network.letCode binding.1 binding.2) ++
      rest) = some (bindings, rest) := by
  induction bindings with
  | nil => exact ended
  | cons binding others ih =>
      have ⟨plainHere, plainOthers⟩ := List.forall_mem_cons.mp plain
      rw [List.flatMap_cons, List.append_assoc, bindings?_letCode plainHere, ih plainOthers]
      rfl

theorem foreign_brace : Foreign (mark '\x7d') := by
  rintro ⟨place, opened⟩
  cases place with
  | dot term => cases term <;> rfl
  | _ => rfl

/-- No binding begins where a term does. -/
theorem Reads.bindings?_eq {term : Term} (reads : Reads code term) (c : Char)
    (rest : List Token) :
    bindings? none (code ++ mark c :: rest) = some ([], code ++ mark c :: rest) := by
  rw [bindings?]
  intro name others same
  match code with
  | [] => cases same
  | [_] => cases (List.cons.inj same).2
  | first :: second :: more =>
      obtain ⟨rfl, following⟩ := List.cons.inj same
      obtain ⟨rfl, -⟩ := List.cons.inj following
      cases reads []

end Source

end OnnxForge

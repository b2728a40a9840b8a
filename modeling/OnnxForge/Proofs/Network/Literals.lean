import Mathlib.Data.List.Forall2
import OnnxForge.Network.Literal
import OnnxForge.Proofs.Tensor.Products
import OnnxForge.Proofs.Tensor.Scalars
import OnnxForge.Proofs.Text.Numeral

/-!
# Reading literals

The code of a tensor is read by the rules of the language it is written in. A numeral with a
suffix is a number of the type that the suffix names, if the type has that number; a minus sign
negates it; the ends of a type have names of their own; and items stand between brackets,
separated by commas. What is read of the code of whole numbers or truth values is each of them,
in order, with the sizes and the rank that they are carried with.
-/

namespace OnnxForge.Source

open Token

/-! ## Numbers -/

/-- The number that a word begins with, and what follows its digits. -/
def numeral? (text : String) : Option (Nat × String) :=
  match text.toList.takeWhile Char.isDigit with
  | [] => none
  | digits =>
    some (Nat.ofDigitChars 10 digits 0, String.ofList (text.toList.dropWhile Char.isDigit))

/-- A number without a suffix. -/
def number? : Token → Option Nat
  | word text =>
    match numeral? text with
    | some (number, "") => some number
    | _ => none
  | _ => none

/-- A type of signed integers: how many bits it has besides the sign, and its values. -/
structure IntegerType where
  bits : Nat
  make : Int → Scalar

namespace IntegerType

def int32 : IntegerType :=
  ⟨31, fun value => .int32 (.ofInt value)⟩

def int64 : IntegerType :=
  ⟨63, fun value => .int64 (.ofInt value)⟩

/-- The type of a name. -/
def ofName? : String → Option IntegerType
  | "i32" => some int32
  | "i64" => some int64
  | _ => none

/-- The least number that a type does not have. -/
def bound (type : IntegerType) : Int :=
  (Nat.pow 2 type.bits : Nat)

/-- Whether a type has a number. -/
def Holds (type : IntegerType) (value : Int) : Prop :=
  -type.bound ≤ value ∧ value < type.bound

instance (type : IntegerType) (value : Int) : Decidable (type.Holds value) :=
  inferInstanceAs (Decidable (_ ∧ _))

/-- A number as a value of a type, if the type has it. -/
def value? (type : IntegerType) (value : Int) : Option Scalar :=
  if type.Holds value then some (type.make value) else none

end IntegerType

/-! ## Elements and lists -/

/-- The value of a numeral with a suffix, or of the opposite number. -/
def suffixed? (negative : Bool) (text : String) : Option Scalar := do
  let (number, suffix) ← numeral? text
  (← IntegerType.ofName? suffix).value? (if negative then -number else number)

/-- The value at an end of a type. -/
def extreme? (type : IntegerType) : String → Option Scalar
  | "MIN" => type.value? (-type.bound)
  | "MAX" => type.value? (type.bound - 1)
  | _ => none

def truth? : String → Option Scalar
  | "true" => some (.bool true)
  | "false" => some (.bool false)
  | _ => none

/-- The value of an element. -/
def scalar? : List Token → Option Scalar
  | [word text] => (suffixed? false text).or (truth? text)
  | [mark '-', word text] => suffixed? true text
  | [word type, mark ':', mark ':', word name] => do extreme? (← IntegerType.ofName? type) name
  | _ => none

/-- A size, which is a word of 64 bits. -/
def size? : List Token → Option UInt64
  | [token] => do
    let number ← number? token
    if number < Nat.pow 2 64 then some (.ofNat number) else none
  | _ => none

/-- The items of a list up to its closing bracket, the first of which has begun with the given
tokens, and the tokens after the bracket. A comma may stand after the last item. -/
def itemsAfter {α : Type} (item? : List Token → Option α) :
    (begun : List Token) → List Token → Option (List α × List Token)
  | _, [] => none
  | begun, token :: rest =>
    if token = mark ']' then
      if begun = [] then some ([], rest) else (item? begun).map fun item => ([item], rest)
    else if token = mark ',' then do
      let item ← item? begun
      let (items, after) ← itemsAfter item? [] rest
      return (item :: items, after)
    else itemsAfter item? (begun ++ [token]) rest

/-- The items of a list in brackets, and the tokens after it. -/
def list? {α : Type} (item? : List Token → Option α) :
    List Token → Option (List α × List Token)
  | mark '[' :: rest => itemsAfter item? [] rest
  | _ => none

/-! ## Tensors -/

/-- What the code of a tensor stands for. -/
structure TensorLiteral where
  rank : Nat
  kind : TensorKind
  elements : List Scalar
  sizes : Shape
deriving DecidableEq

/-- The kind at the end of type arguments, and the tokens after them. -/
def kind? : List Token → Option (TensorKind × List Token)
  | mark '>' :: rest => some (.float, rest)
  | mark ',' :: word "Int" :: mark '>' :: rest => some (.int, rest)
  | mark ',' :: word "Bool" :: mark '>' :: rest => some (.bool, rest)
  | _ => none

/-- The elements and the sizes of data, and the tokens after it. -/
def data? : List Token → Option (List Scalar × Shape × List Token)
  | word "TensorData" :: mark ':' :: mark ':' :: word "new" :: mark '(' :: word "vec" ::
      mark '!' :: rest =>
    match list? scalar? rest with
    | some (elements, mark ',' :: rest) =>
      match list? size? rest with
      | some (sizes, mark ')' :: rest) => some (elements, sizes, rest)
      | _ => none
    | _ => none
  | _ => none

/-- What code stands for that makes a tensor. -/
def tensor? : List Token → Option TensorLiteral
  | word "Tensor" :: mark ':' :: mark ':' :: mark '<' :: word "B" :: mark ',' :: rank :: rest =>
    match number? rank, kind? rest with
    | some rank, some (kind, mark ':' :: mark ':' :: word "from_data" :: mark '(' :: rest) =>
      match data? rest with
      | some (elements, sizes, [mark ',', word "device", mark ')']) =>
        some ⟨rank, kind, elements, sizes⟩
      | _ => none
    | _, _ => none
  | _ => none

/-! ## Numbers are read back -/

/-- A numeral is read up to the first character that is no digit. -/
theorem numeral?_natural (n : Nat) {suffix : String}
    (apart : suffix.toList.head?.all (fun c => !c.isDigit) = true) :
    numeral? (Text.natural n ++ suffix) = some (n, suffix) := by
  have digits : ∀ c ∈ (Text.natural n).toList, c.isDigit = true :=
    fun c member => Text.isDigit_of_mem_natural member
  have ended : suffix.toList.takeWhile Char.isDigit = [] ∧
      suffix.toList.dropWhile Char.isDigit = suffix.toList := by
    cases characters : suffix.toList with
    | nil => exact ⟨rfl, rfl⟩
    | cons c rest => simp_all
  rw [numeral?, String.toList_append, List.takeWhile_append_of_pos digits,
    List.dropWhile_append_of_pos digits, ended.1, ended.2, List.append_nil,
    String.ofList_toList, Text.toList_natural]
  split
  next none => exact (Nat.toDigits_ne_nil none).elim
  next => rw [Nat.ofDigitChars_toDigits (by decide) (by decide)]

theorem number?_naturalCode (n : Nat) : number? (Network.naturalCode n) = some n := by
  have read : numeral? (Text.natural n ++ "") = some (n, "") := numeral?_natural n rfl
  rw [String.append_empty] at read
  rw [Network.naturalCode, number?, read]
  rfl

theorem size?_naturalCode (size : UInt64) :
    size? [Network.naturalCode size.toNat] = some size := by
  rw [size?, number?_naturalCode, Option.bind_eq_bind, Option.bind_some,
    if_pos size.toNat_lt, UInt64.ofNat_toNat]

/-! ## Elements are read back -/

theorem IntegerType.value?_eq_some {type : IntegerType} {value : Int} (holds : type.Holds value) :
    type.value? value = some (type.make value) :=
  if_pos holds

theorem suffixed?_natural {name : String} {type : IntegerType} {negative : Bool} {n : Nat}
    (apart : name.toList.head?.all (fun c => !c.isDigit) = true)
    (isType : IntegerType.ofName? name = some type)
    (holds : type.Holds (if negative then -n else n)) :
    suffixed? negative (Text.natural n ++ name) =
      some (type.make (if negative then -n else n)) := by
  rw [suffixed?, numeral?_natural n apart, Option.bind_eq_bind, Option.bind_some]
  change (IntegerType.ofName? name >>= _) = _
  rw [isType]
  exact type.value?_eq_some holds

theorem scalar?_signed {negative : Bool} {text : String} {element : Scalar}
    (read : suffixed? negative text = some element) :
    scalar? (Network.signed negative text) = some element := by
  cases negative with
  | true => exact read
  | false =>
      change (suffixed? false text).or _ = _
      rw [read, Option.some_or]

/-- Integers are read back, the least one of their type by its name. -/
theorem scalar?_integerCode {name : String} {type : IntegerType} {value : Int}
    (apart : name.toList.head?.all (fun c => !c.isDigit) = true)
    (isType : IntegerType.ofName? name = some type) (holds : type.Holds value) :
    scalar? (Network.integerCode name type.bits value) = some (type.make value) := by
  rw [Network.integerCode]
  split
  next least =>
    change (IntegerType.ofName? name >>= fun type => extreme? type "MIN") = _
    rw [isType, least]
    exact type.value?_eq_some (least ▸ holds)
  next =>
    have whole : (if decide (value < 0) = true then -(value.natAbs : Int) else value.natAbs) =
        value := by
      simp only [decide_eq_true_eq]
      omega
    have read := suffixed?_natural apart isType (whole.symm ▸ holds)
    rw [whole] at read
    exact scalar?_signed read

theorem scalar?_int32 (value : Int32) :
    scalar? (Network.integerCode "i32" 31 value.toInt) = some (.int32 value) := by
  have holds : IntegerType.int32.Holds value.toInt := ⟨value.le_toInt, value.toInt_lt⟩
  have same : IntegerType.int32.make value.toInt = .int32 value :=
    congrArg Scalar.int32 (Int32.ofInt_toInt value)
  rw [← same]
  exact scalar?_integerCode (by decide) rfl holds

theorem scalar?_int64 (value : Int64) :
    scalar? (Network.integerCode "i64" 63 value.toInt) = some (.int64 value) := by
  have holds : IntegerType.int64.Holds value.toInt := ⟨value.le_toInt, value.toInt_lt⟩
  have same : IntegerType.int64.make value.toInt = .int64 value :=
    congrArg Scalar.int64 (Int64.ofInt_toInt value)
  rw [← same]
  exact scalar?_integerCode (by decide) rfl holds

theorem scalar?_boolCode (value : Bool) :
    scalar? (Network.boolCode value) = some (.bool value) := by
  cases value <;> decide

/-! ## Lists are read back -/

/-- Code from which an item is read, and which no list takes for more than one. -/
structure Spells {α : Type} (item? : List Token → Option α) (code : List Token) (item : α) :
    Prop where
  read : item? code = some item
  begun : code ≠ []
  plain : ∀ token ∈ code, token ≠ mark ',' ∧ token ≠ mark ']'

section Lists

variable {α : Type} {item? : List Token → Option α}

theorem Spells.forall₂_map {β : Type} {code : β → List Token} {make : β → α}
    (spelled : ∀ value, Spells item? (code value) (make value)) (values : List β) :
    List.Forall₂ (Spells item?) (values.map code) (values.map make) := by
  rw [List.forall₂_map_left_iff, List.forall₂_map_right_iff, List.forall₂_same]
  exact fun value _ => spelled value

theorem itemsAfter_append {code : List Token}
    (plain : ∀ token ∈ code, token ≠ mark ',' ∧ token ≠ mark ']') (begun rest : List Token) :
    itemsAfter item? begun (code ++ rest) = itemsAfter item? (begun ++ code) rest := by
  induction code generalizing begun with
  | nil => rw [List.nil_append, List.append_nil]
  | cons token others ih =>
      have ⟨⟨noComma, noBracket⟩, plainOthers⟩ := List.forall_mem_cons.mp plain
      rw [List.cons_append, itemsAfter, if_neg noBracket, if_neg noComma, ih plainOthers,
        List.append_assoc, List.singleton_append]

theorem commaSeparated_cons_cons (first second : List Token) (rest : List (List Token)) :
    commaSeparated (first :: second :: rest) =
      first ++ mark ',' :: commaSeparated (second :: rest) :=
  rfl

/-- What stands between the brackets of a list are its items. -/
theorem list?_brackets {codes : List (List Token)} {items : List α}
    (spelled : List.Forall₂ (Spells item?) codes items) (rest : List Token) :
    list? item? (brackets (commaSeparated codes) ++ rest) = some (items, rest) := by
  have inside : itemsAfter item? [] (commaSeparated codes ++ mark ']' :: rest) =
      some (items, rest) := by
    induction spelled with
    | nil => rfl
    | @cons code item codes items first others ih =>
        cases others with
        | nil =>
            rw [commaSeparated, itemsAfter_append first.plain, List.nil_append, itemsAfter,
              if_pos rfl, if_neg first.begun, first.read]
            rfl
        | cons next others =>
            rw [commaSeparated_cons_cons, List.append_assoc, itemsAfter_append first.plain,
              List.nil_append, List.cons_append, itemsAfter, if_neg (by decide), if_pos rfl,
              first.read]
            simp only [Option.bind_eq_bind, Option.bind_some, ih]
            rfl
  rw [brackets, enclosed, List.cons_append, List.cons_append, List.append_assoc]
  exact inside

end Lists

/-! ## Tensors are read back -/

theorem spells_naturalCode (size : UInt64) :
    Spells size? [Network.naturalCode size.toNat] size where
  read := size?_naturalCode size
  begun := List.cons_ne_nil _ _
  plain := by simp [Network.naturalCode]

theorem plain_integerCode (name : String) (bits : Nat) (value : Int) :
    Network.integerCode name bits value ≠ [] ∧
      ∀ token ∈ Network.integerCode name bits value, token ≠ mark ',' ∧ token ≠ mark ']' := by
  rw [Network.integerCode]
  split
  · simp [Network.constantOf]
  · cases decide (value < 0) <;> simp [Network.signed]

theorem spells_integerCode {name : String} {bits : Nat} {value : Int} {element : Scalar}
    (read : scalar? (Network.integerCode name bits value) = some element) :
    Spells scalar? (Network.integerCode name bits value) element :=
  have ⟨begun, plain⟩ := plain_integerCode name bits value
  ⟨read, begun, plain⟩

theorem spells_boolCode (value : Bool) :
    Spells scalar? (Network.boolCode value) (.bool value) where
  read := scalar?_boolCode value
  begun := List.cons_ne_nil _ _
  plain := by simp [Network.boolCode]

end OnnxForge.Source

namespace OnnxForge

open Source Token

/-- Whether the elements of a payload are whole numbers or truth values. -/
def Payload.isDiscrete : Payload → Bool
  | .int32 _ | .int64 _ | .bool _ => true
  | _ => false

namespace Network

theorem spells_elementCodes {payload : Payload} (discrete : payload.isDiscrete = true) :
    List.Forall₂ (Spells scalar?) (elementCodes payload) payload.scalars := by
  cases payload with
  | int32 => exact Spells.forall₂_map (fun value => spells_integerCode (scalar?_int32 value)) _
  | int64 => exact Spells.forall₂_map (fun value => spells_integerCode (scalar?_int64 value)) _
  | bool => exact Spells.forall₂_map spells_boolCode _
  | float16 | float32 | float64 | string => cases discrete

theorem list?_sizes (shape : Shape) (rest : List Token) :
    list? size? (naturalsCode (shape.map UInt64.toNat) ++ rest) = some (shape, rest) := by
  have spelled := Spells.forall₂_map spells_naturalCode shape
  rw [List.map_id'] at spelled
  rw [naturalsCode, List.map_map]
  exact list?_brackets spelled rest

theorem data?_dataCode {payload : Payload} (discrete : payload.isDiscrete = true) (shape : Shape)
    (rest : List Token) :
    data? (dataCode payload shape ++ rest) = some (payload.scalars, shape, rest) := by
  have elements := list?_brackets (spells_elementCodes discrete)
    (mark ',' :: (naturalsCode (shape.map UInt64.toNat) ++ mark ')' :: rest))
  have sizes := list?_sizes shape (mark ')' :: rest)
  have code : dataCode payload shape ++ rest =
      word "TensorData" :: mark ':' :: mark ':' :: word "new" :: mark '(' :: word "vec" ::
        mark '!' :: (brackets (commaSeparated (elementCodes payload)) ++
          mark ',' :: (naturalsCode (shape.map UInt64.toNat) ++ mark ')' :: rest)) := by
    have head : scan "TensorData::new" =
        [word "TensorData", mark ':', mark ':', word "new"] := by
      decide
    have vector : scan "vec!" = [word "vec", mark '!'] := by decide
    simp [dataCode, head, vector, parens, enclosed]
  rw [code, data?, elements]
  simp only [sizes]

theorem kind?_kindCode (kind : TensorKind) (rest : List Token) :
    kind? (kindCode kind ++ mark '>' :: rest) = some (kind, rest) := by
  cases kind <;> rfl

theorem tensor?_tensorCode {tensor : Tensor} (discrete : tensor.payload.isDiscrete = true)
    (kind : TensorKind) :
    tensor? (tensorCode tensor kind) = some
      { rank := (carriedShape tensor.shape).length
        kind
        elements := tensor.payload.scalars
        sizes := carriedShape tensor.shape } := by
  have ending : scan ", device" = [mark ',', word "device"] := by decide
  have data := data?_dataCode discrete (carriedShape tensor.shape)
    [mark ',', word "device", mark ')']
  have kindRead := kind?_kindCode kind (mark ':' :: mark ':' :: word "from_data" :: mark '(' ::
    (dataCode tensor.payload (carriedShape tensor.shape) ++
      [mark ',', word "device", mark ')']))
  have code : tensorCode tensor kind =
      word "Tensor" :: mark ':' :: mark ':' :: mark '<' :: word "B" :: mark ',' ::
        naturalCode (carriedShape tensor.shape).length :: (kindCode kind ++ mark '>' ::
          mark ':' :: mark ':' :: word "from_data" :: mark '(' ::
            (dataCode tensor.payload (carriedShape tensor.shape) ++
              [mark ',', word "device", mark ')'])) := by
    have head : scan "Tensor::" = [word "Tensor", mark ':', mark ':'] := by decide
    have arguments : scan "<B," = [mark '<', word "B", mark ','] := by decide
    have function : scan "::from_data" = [mark ':', mark ':', word "from_data"] := by decide
    simp [tensorCode, tensorArguments, head, arguments, function, ending, parens, enclosed]
  rw [code, tensor?, number?_naturalCode, kindRead]
  simp only [data]

/-- The scalar's own shape has no axes, and is carried with one. -/
theorem size_carriedShape (shape : Shape) : (carriedShape shape).size = shape.size := by
  cases shape with
  | nil => decide
  | cons => rfl

/--
The code of a tensor of whole numbers or truth values is read back, in any kind.  What is read
are its elements in their order, none of them changed, not even the least of their type; its
sizes, or a single one for a scalar; and as many axes as there are sizes.  A consistent tensor
has as many elements as the sizes read ask for.
-/
theorem literals_read_back (tensor : Tensor) (kind : TensorKind) (overflow : Overflow)
    (discrete : tensor.payload.isDiscrete = true)
    (consistent : tensor.consistent? overflow = some true) :
    ∃ literal, tensor? (tensorCode tensor kind) = some literal ∧
      literal.elements = tensor.payload.scalars ∧
      literal.sizes = (if tensor.shape = [] then [1] else tensor.shape) ∧
      literal.rank = literal.sizes.length ∧
      literal.kind = kind ∧
      literal.elements.length = literal.sizes.size.toNat := by
  refine ⟨_, tensor?_tensorCode discrete kind, rfl, ?_, rfl, rfl, ?_⟩
  · cases tensor.shape <;> rfl
  · change tensor.payload.scalars.length = (carriedShape tensor.shape).size.toNat
    rw [Payload.length_scalars, size_carriedShape]
    exact (Tensor.consistent?_eq_some_true_iff.mp consistent).2

/-- Both ends of the integers of 32 bits, and a number between them. -/
def extremes : Tensor :=
  ⟨.int32, [3, 1], .int32 [Int32.minValue, -1, Int32.maxValue]⟩

theorem literals_read_back_of_extremes :
    extremes.payload.isDiscrete = true ∧ extremes.consistent? .stops = some true ∧
    ∃ literal, tensor? (tensorCode extremes .int) = some literal ∧
      literal.elements =
        [.int32 Int32.minValue, .int32 (-1), .int32 Int32.maxValue] ∧
      literal.sizes = [3, 1] ∧ literal.rank = 2 := by
  have ⟨literal, read, elements, sizes, rank, _, _⟩ :=
    literals_read_back extremes .int .stops (by decide) (by decide)
  exact ⟨by decide, by decide, literal, read, elements, sizes, rank.trans (by rw [sizes]; rfl)⟩

end Network

end OnnxForge

import OnnxForge.Proofs.Message.RoundTrip

/-!
# The fields that messages declare

Each kind of message declares fields by their numbers: single values, lists of numbers that may
be packed, and messages of a kind. What a reader makes of a field follows from its declaration.
A field that is not declared is passed over, packed numbers are taken one after the other, and
a message inside another is read by the reader of its kind with one level less.
-/

namespace OnnxForge.Message

/-! ## Declarations -/

/-- The kinds of messages. -/
inductive Kind
  | model
  | operatorSet
  | graph
  | node
  | attr
  | tensor
  | valueInfo
  | valueType
  | tensorType
  | shape
  | dimension
deriving DecidableEq

/-- How the numbers of a list are written. -/
inductive Packing
  | varint
  | fixed32
  | fixed64
deriving DecidableEq

/-- The declaration of a field. -/
inductive Form
  | single
  | packed (packing : Packing)
  | message (kind : Kind)
deriving DecidableEq

namespace Packing

/-- A number of a list as its field holds it. -/
abbrev Item : Packing → Type
  | varint => UInt64
  | fixed32 => UInt32
  | fixed64 => UInt64

/-- The octets of a number among others. -/
def write : (packing : Packing) → packing.Item → Bytes
  | varint, value => Wire.encodeVarint value.toNat
  | fixed32, bits => Bytes.littleEndian 4 bits.toNat
  | fixed64, bits => Bytes.littleEndian 8 bits.toNat

/-- The value of a field for a single number. -/
def single : (packing : Packing) → packing.Item → Wire.Value
  | varint, value => .varint value
  | fixed32, bits => .fixed32 bits
  | fixed64, bits => .fixed64 bits

/-- The value of a field for several numbers. -/
def run (packing : Packing) (items : List packing.Item) : Wire.Value :=
  .octets (items.flatMap packing.write)

end Packing

namespace Kind

/-- The fields that messages of a kind declare. -/
def declarations : Kind → List (Nat × Form)
  | model => [(1, .single), (2, .single), (3, .single), (4, .single), (5, .single), (6, .single),
      (7, .message graph), (8, .message operatorSet)]
  | operatorSet => [(1, .single), (2, .single)]
  | graph => [(1, .message node), (2, .single), (5, .message tensor), (10, .single),
      (11, .message valueInfo), (12, .message valueInfo), (13, .message valueInfo)]
  | node => [(1, .single), (2, .single), (3, .single), (4, .single), (5, .message attr),
      (6, .single), (7, .single)]
  | attr => [(1, .single), (2, .single), (3, .single), (4, .single), (5, .message tensor),
      (6, .message graph), (7, .packed .fixed32), (8, .packed .varint), (9, .single),
      (10, .message tensor), (11, .message graph), (13, .single), (20, .single), (21, .single)]
  | tensor => [(1, .packed .varint), (2, .single), (4, .packed .fixed32), (5, .packed .varint),
      (6, .single), (7, .packed .varint), (8, .single), (9, .single), (10, .packed .fixed64),
      (11, .packed .varint), (12, .single)]
  | valueInfo => [(1, .single), (2, .message valueType), (3, .single)]
  | valueType => [(1, .message tensorType), (6, .single)]
  | tensorType => [(1, .single), (2, .message shape)]
  | shape => [(1, .message dimension)]
  | dimension => [(1, .single), (2, .single), (3, .single)]

/-- The numbers of the fields that messages of a kind declare. -/
def numbers (kind : Kind) : List Nat :=
  kind.declarations.map Prod.fst

/-- What a message of a kind is read as. -/
abbrev Content : Kind → Type
  | model => Model
  | operatorSet => OperatorSet
  | graph => Graph
  | node => Node
  | attr => Attribute
  | tensor => Tensor
  | valueInfo => ValueInfo
  | valueType => ValueType
  | tensorType => TensorType
  | shape => List Dimension
  | dimension => Dimension

def reader : (kind : Kind) → Reader kind.Content
  | model => model?
  | operatorSet => operatorSet?
  | graph => graph?
  | node => node?
  | attr => attribute?
  | tensor => tensor?
  | valueInfo => valueInfo?
  | valueType => valueType?
  | tensorType => tensorType?
  | shape => shape?
  | dimension => dimension?

/-- Declared numbers fit into tags. -/
theorem number_bounds {kind : Kind} {declaration : Nat × Form}
    (declared : declaration ∈ kind.declarations) :
    0 < declaration.1 ∧ declaration.1 < 0x20000000 := by
  have all : ∀ declaration ∈ kind.declarations,
      0 < declaration.1 ∧ declaration.1 < 0x20000000 := by
    cases kind <;> decide
  exact all declaration declared

end Kind

/-! ## Packed numbers -/

/-- Packed numbers are taken like fields of their own, one after the other. -/
def Packs {α : Type} (add : α → Wire.Field → Option α) (number : Nat) (packing : Packing) :
    Prop :=
  ∀ (items : List packing.Item) (message : α), add message ⟨number, packing.run items⟩ =
    items.foldlM (fun message item => add message ⟨number, packing.single item⟩) message

section Packs

variable {α γ : Type} {add : α → Wire.Field → Option α} {number : Nat} {packing : Packing}

theorem Packing.write_ne_nil (item : packing.Item) : packing.write item ≠ [] := by
  cases packing with
  | varint => exact Wire.encodeVarint_ne_nil _
  | fixed32 => exact Restores.littleEndian_ne_nil _ _
  | fixed64 => exact Restores.littleEndian_ne_nil _ _

/-- Packed numbers are read one after the other, each of which may be refused. -/
theorem packed?_run {read : Bytes → Option (γ × Bytes)} {accept : packing.Item → Option γ}
    (each : ∀ item rest, read (packing.write item ++ rest) =
      (accept item).map fun value => (value, rest))
    (items : List packing.Item) :
    Wire.packed? read (items.flatMap packing.write) = items.mapM accept := by
  have enough : ∀ steps, (items.flatMap packing.write).length ≤ steps →
      Wire.packedWithin read steps (items.flatMap packing.write) = items.mapM accept := by
    induction items with
    | nil =>
        intro steps _
        cases steps <;> rfl
    | cons item rest ih =>
        intro steps bound
        have nonempty := List.length_pos_iff.mpr (Packing.write_ne_nil item)
        rw [List.flatMap_cons, List.length_append] at bound
        obtain ⟨step, rfl⟩ : ∃ step, steps = step + 1 := ⟨steps - 1, by omega⟩
        rw [List.flatMap_cons, Wire.packedWithin, each, List.mapM_cons]
        · cases accept item with
          | none => rfl
          | some value =>
              simp only [Option.map_some, ih step (by omega)]
              cases rest.mapM accept <;> rfl
        · exact List.append_ne_nil_of_left_ne_nil (Packing.write_ne_nil item) _
  exact enough _ (Nat.le_refl _)

/-- Numbers that are added to a part of a message may be packed or not. -/
theorem packs_part (part : Part α (List γ)) {read : Bytes → Option (γ × Bytes)}
    (accept : packing.Item → Option γ)
    (each : ∀ item rest, read (packing.write item ++ rest) =
      (accept item).map fun value => (value, rest))
    (reads : ∀ message content, add message ⟨number, .delimited content⟩ =
      (Wire.packed? read content.octets).map fun values =>
        part.set message (part.get message ++ values))
    (readsOne : ∀ message item, add message ⟨number, packing.single item⟩ =
      (accept item).map fun value => part.set message (part.get message ++ [value])) :
    Packs add number packing := by
  intro items message
  have whole := reads message (contentOf (items.flatMap packing.write))
  rw [contentOf, packed?_run each] at whole
  refine whole.trans ?_
  clear whole
  induction items generalizing message with
  | nil =>
      change some (part.set message (part.get message ++ [])) = some message
      rw [List.append_nil, part.set_get]
  | cons item rest ih =>
      rw [List.mapM_cons, List.foldlM_cons, readsOne]
      cases accept item with
      | none => rfl
      | some value =>
          have following := ih (part.set message (part.get message ++ [value]))
          simp only [part.get_set, part.set_set, List.append_assoc, List.singleton_append]
            at following
          refine Eq.trans ?_ following
          cases rest.mapM accept <;> rfl

end Packs

namespace Packing

theorem packedInt64?_write (item : varint.Item) (rest : Bytes) :
    packedInt64? (varint.write item ++ rest) =
      (some item.toInt64).map fun value => (value, rest) := by
  simp only [write, packedInt64?, Wire.varint?_encodeVarint, Option.map_some]

theorem packedInt32?_write (item : varint.Item) (rest : Bytes) :
    packedInt32? (varint.write item ++ rest) = (int32? item).map fun value => (value, rest) := by
  simp only [write, packedInt32?, Wire.varint?_encodeVarint, Option.bind_some]

theorem varint?_write (item : varint.Item) (rest : Bytes) :
    Wire.varint? (varint.write item ++ rest) = (some item).map fun value => (value, rest) :=
  Wire.varint?_encodeVarint item rest

theorem packedWord32?_write (item : fixed32.Item) (rest : Bytes) :
    packedWord32? (fixed32.write item ++ rest) = (some item).map fun value => (value, rest) :=
  Message.packedWord32?_write item rest

theorem packedWord64?_write (item : fixed64.Item) (rest : Bytes) :
    packedWord64? (fixed64.write item ++ rest) = (some item).map fun value => (value, rest) :=
  Message.packedWord64?_write item rest

end Packing

/-! ## Readers -/

/-- What a reader that leaves so many levels makes of a field that is declared. -/
def Form.Holds {α : Type} (depth : Nat) (add : α → Wire.Field → Option α) (number : Nat) :
    Form → Prop
  | single => True
  | packed packing => Packs add number packing
  | message kind => ∃ put : α → kind.Content → α, ∀ message content,
      add message ⟨number, .delimited content⟩ =
        (nested? kind.reader depth content).map (put message)

/-- A reader of fields follows the declarations of a kind of message. -/
structure Follows {α : Type} (kind : Kind) (depth : Nat) (add : α → Wire.Field → Option α) :
    Prop where
  declared : ∀ declaration ∈ kind.declarations, declaration.2.Holds depth add declaration.1
  undeclared : ∀ number ∉ kind.numbers, ∀ message value,
    add message ⟨number, value⟩ = passOver message value

theorem Tensor.follows (depth : Nat) : Follows .tensor depth Tensor.add where
  declared := by
    simp only [Kind.declarations, List.forall_mem_cons]
    refine ⟨?dims, trivial, ?floatData, ?int32Data, trivial, ?int64Data, trivial, trivial,
      ?doubleData, ?uint64Data, trivial, List.forall_mem_nil _⟩
    case dims =>
      exact packs_part { get := (·.dims), set := fun tensor dims => { tensor with dims } }
        (fun item => some item.toInt64) Packing.packedInt64?_write (fun _ _ => rfl) fun _ _ => rfl
    case floatData =>
      exact packs_part
        { get := (·.floatData), set := fun tensor floatData => { tensor with floatData } }
        some Packing.packedWord32?_write (fun _ _ => rfl) fun _ _ => rfl
    case int32Data =>
      exact packs_part
        { get := (·.int32Data), set := fun tensor int32Data => { tensor with int32Data } }
        int32? Packing.packedInt32?_write (fun _ _ => rfl) fun _ _ => rfl
    case int64Data =>
      exact packs_part
        { get := (·.int64Data), set := fun tensor int64Data => { tensor with int64Data } }
        (fun item => some item.toInt64) Packing.packedInt64?_write (fun _ _ => rfl) fun _ _ => rfl
    case doubleData =>
      exact packs_part
        { get := (·.doubleData), set := fun tensor doubleData => { tensor with doubleData } }
        some Packing.packedWord64?_write (fun _ _ => rfl) fun _ _ => rfl
    case uint64Data =>
      exact packs_part
        { get := (·.uint64Data), set := fun tensor uint64Data => { tensor with uint64Data } }
        some Packing.varint?_write (fun _ _ => rfl) fun _ _ => rfl
  undeclared := by
    intro number absent message value
    rw [Tensor.add]
    dsimp only
    split
    all_goals first | rfl | exact absurd (by decide) absent

theorem Attribute.follows (depth : Nat) :
    Follows .attr depth (Attribute.add (nested? tensor? depth) (nested? graph? depth)) where
  declared := by
    simp only [Kind.declarations, List.forall_mem_cons]
    refine ⟨trivial, trivial, trivial, trivial, ⟨_, fun _ _ => rfl⟩, ⟨_, fun _ _ => rfl⟩, ?floats,
      ?ints, trivial, ⟨_, fun _ _ => rfl⟩, ⟨_, fun _ _ => rfl⟩, trivial, trivial, trivial,
      List.forall_mem_nil _⟩
    case floats =>
      exact packs_part { get := (·.floats), set := fun attr floats => { attr with floats } }
        some Packing.packedWord32?_write (fun _ _ => rfl) fun _ _ => rfl
    case ints =>
      exact packs_part { get := (·.ints), set := fun attr ints => { attr with ints } }
        (fun item => some item.toInt64) Packing.packedInt64?_write (fun _ _ => rfl) fun _ _ => rfl
  undeclared := by
    intro number absent message value
    rw [Attribute.add]
    dsimp only
    split
    all_goals first | rfl | exact absurd (by decide) absent

theorem Node.follows (depth : Nat) : Follows .node depth (Node.add (nested? attribute? depth)) where
  declared := by
    simp only [Kind.declarations, List.forall_mem_cons]
    exact ⟨trivial, trivial, trivial, trivial, ⟨_, fun _ _ => rfl⟩, trivial, trivial,
      List.forall_mem_nil _⟩
  undeclared := by
    intro number absent message value
    rw [Node.add]
    dsimp only
    split
    all_goals first | rfl | exact absurd (by decide) absent

theorem Graph.follows (depth : Nat) :
    Follows .graph depth
      (Graph.add (nested? node? depth) (nested? tensor? depth) (nested? valueInfo? depth)) where
  declared := by
    simp only [Kind.declarations, List.forall_mem_cons]
    exact ⟨⟨_, fun _ _ => rfl⟩, trivial, ⟨_, fun _ _ => rfl⟩, trivial, ⟨_, fun _ _ => rfl⟩,
      ⟨_, fun _ _ => rfl⟩, ⟨_, fun _ _ => rfl⟩, List.forall_mem_nil _⟩
  undeclared := by
    intro number absent message value
    rw [Graph.add]
    dsimp only
    split
    all_goals first | rfl | exact absurd (by decide) absent

theorem Dimension.follows (depth : Nat) : Follows .dimension depth Dimension.add where
  declared := by
    simp only [Kind.declarations, List.forall_mem_cons]
    exact ⟨trivial, trivial, trivial, List.forall_mem_nil _⟩
  undeclared := by
    intro number absent message value
    rw [Dimension.add]
    dsimp only
    split
    all_goals first | rfl | exact absurd (by decide) absent

/-- Every reader follows the declarations of the kind that it reads. -/
theorem Kind.exists_follows (kind : Kind) (depth : Nat) :
    ∃ empty add, kind.reader depth = readFields depth empty add ∧ Follows kind depth add := by
  cases kind with
  | graph => exact ⟨_, _, graph?_eq depth, Graph.follows depth⟩
  | node => exact ⟨_, _, node?_eq depth, Node.follows depth⟩
  | attr => exact ⟨_, _, attribute?_eq depth, Attribute.follows depth⟩
  | tensor => exact ⟨_, _, rfl, Tensor.follows depth⟩
  | dimension => exact ⟨_, _, rfl, Dimension.follows depth⟩
  | model | operatorSet | valueInfo | valueType | tensorType | shape =>
      refine ⟨_, _, rfl, ?declared, ?undeclared⟩
      case declared =>
        simp only [Kind.declarations, List.forall_mem_cons]
        and_intros
        all_goals first | exact trivial | exact ⟨_, fun _ _ => rfl⟩ | exact List.forall_mem_nil _
      case undeclared =>
        intro number absent message value
        dsimp only
        split
        all_goals first | rfl | exact absurd (by decide) absent

end OnnxForge.Message

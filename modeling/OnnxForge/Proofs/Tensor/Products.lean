import Mathlib.Algebra.BigOperators.Group.List.Basic
import OnnxForge.Tensor

/-!
# Products of sizes

The product of the sizes of a shape is a natural number, and the words that compute it have 64
bits. A program that lets them wrap around has the remainder of the number. One that stops
there has the number itself, provided that the product of the first sizes is a word wherever it
leaves off.
-/

namespace OnnxForge

theorem Overflow.product?_stops_eq_some_iff {left right word : UInt64} :
    stops.product? left right = some word ↔
      left.toNat * right.toNat < Nat.pow 2 64 ∧ word = left * right := by
  rw [product?]
  split
  next fits => exact ⟨fun same => ⟨fits, (Option.some.inj same).symm⟩, fun same => same.2 ▸ rfl⟩
  next large => exact ⟨nofun, fun same => (large same.1).elim⟩

/-- A product that fits is no remainder. -/
theorem toNat_mul_of_lt {left right : UInt64} (fits : left.toNat * right.toNat < Nat.pow 2 64) :
    (left * right).toNat = left.toNat * right.toNat :=
  (UInt64.toNat_mul left right).trans (Nat.mod_eq_of_lt fits)

namespace Shape

/-- The number of elements that the sizes ask for. -/
def count (shape : Shape) : Nat :=
  (shape.map UInt64.toNat).prod

@[simp]
theorem count_nil : count [] = 1 := rfl

@[simp]
theorem count_cons (size : UInt64) (rest : Shape) :
    count (size :: rest) = size.toNat * rest.count := by
  rw [count, List.map_cons, List.prod_cons, ← count]

@[simp]
theorem count_append (first rest : Shape) :
    count (first ++ rest) = first.count * rest.count := by
  rw [count, List.map_append, List.prod_append, ← count, ← count]

/-- The sizes are multiplied as words of 64 bits. -/
theorem toNat_size (shape : Shape) : shape.size.toNat = shape.count % Nat.pow 2 64 := by
  suffices ∀ first : UInt64, (shape.foldl (· * ·) first).toNat =
      first.toNat * shape.count % Nat.pow 2 64 by
    rw [size, this 1, show (1 : UInt64).toNat = 1 from rfl, Nat.one_mul]
  induction shape with
  | nil =>
      intro first
      rw [List.foldl_nil, count_nil, Nat.mul_one]
      exact (Nat.mod_eq_of_lt first.toNat_lt).symm
  | cons size rest ih =>
      intro first
      rw [List.foldl_cons, ih, UInt64.toNat_mul, count_cons, Nat.mod_mul_mod, Nat.mul_assoc]

/-- As a word, the product is the number itself exactly if a word can be that number. -/
theorem toNat_size_eq_count_iff (shape : Shape) :
    shape.size.toNat = shape.count ↔ shape.count < Nat.pow 2 64 := by
  rw [toNat_size]
  exact Nat.mod_eq_iff_lt (Nat.ne_of_gt (Nat.pow_pos Nat.two_pos))

/-- The program gets through the sizes: where it stops at a product that is no word, none of
the products of the first sizes may be too large. -/
def Passable (overflow : Overflow) (shape : Shape) : Prop :=
  overflow = .stops → ∀ taken : Shape, taken <+: shape → taken.count < Nat.pow 2 64

theorem passable_wraps (shape : Shape) : shape.Passable .wraps := nofun

theorem Passable.count_lt {shape : Shape} (passable : shape.Passable .stops) :
    shape.count < Nat.pow 2 64 :=
  passable rfl shape List.prefix_rfl

/-- Without a size of zero the product of the first sizes divides that of all of them. -/
theorem passable_of_count_lt {shape : Shape} (filled : 0 < shape.count)
    (small : shape.count < Nat.pow 2 64) (overflow : Overflow) : shape.Passable overflow := by
  rintro - taken ⟨rest, rfl⟩
  rw [count_append] at filled small
  exact Nat.lt_of_le_of_lt (Nat.le_mul_of_pos_right _ (Nat.pos_of_mul_pos_left filled)) small

private theorem foldlM_wraps (shape : Shape) (first : UInt64) :
    shape.foldlM Overflow.wraps.product? first = some (shape.foldl (· * ·) first) := by
  induction shape generalizing first with
  | nil => rfl
  | cons size rest ih => exact ih (first * size)

private theorem foldlM_stops_eq_some_iff {shape : Shape} {first word : UInt64} :
    shape.foldlM Overflow.stops.product? first = some word ↔
      (∀ taken : Shape, taken <+: shape → first.toNat * taken.count < Nat.pow 2 64) ∧
        word = shape.foldl (· * ·) first := by
  induction shape generalizing first with
  | nil =>
      have fits : ∀ taken : Shape, taken <+: [] → first.toNat * taken.count < Nat.pow 2 64 := by
        intro taken front
        rw [List.prefix_nil.mp front, count_nil, Nat.mul_one]
        exact first.toNat_lt
      exact ⟨fun same => ⟨fits, (Option.some.inj same).symm⟩, fun same => same.2 ▸ rfl⟩
  | cons size rest ih =>
      rw [List.foldlM_cons, List.foldl_cons]
      constructor
      · intro run
        rcases Option.bind_eq_some_iff.mp run with ⟨product, multiplied, following⟩
        rcases Overflow.product?_stops_eq_some_iff.mp multiplied with ⟨fits, rfl⟩
        rcases ih.mp following with ⟨words, same⟩
        refine ⟨fun taken front => ?_, same⟩
        rcases List.prefix_cons_iff.mp front with rfl | ⟨others, rfl, inner⟩
        · rw [count_nil, Nat.mul_one]
          exact first.toNat_lt
        · have word := words others inner
          rwa [toNat_mul_of_lt fits, Nat.mul_assoc, ← count_cons] at word
      · rintro ⟨words, same⟩
        have fits : first.toNat * size.toNat < Nat.pow 2 64 := by
          simpa using words [size] (List.prefix_append [size] rest)
        refine Option.bind_eq_some_iff.mpr
          ⟨first * size, Overflow.product?_stops_eq_some_iff.mpr ⟨fits, rfl⟩, ih.mpr ⟨?_, same⟩⟩
        intro taken front
        have word := words (size :: taken) (List.cons_prefix_cons.mpr ⟨rfl, front⟩)
        rwa [toNat_mul_of_lt fits, Nat.mul_assoc, ← count_cons]

/-- The product that the program goes on with is a single word, however it deals with others. -/
theorem size?_eq_some_iff {overflow : Overflow} {shape : Shape} {word : UInt64} :
    shape.size? overflow = some word ↔ shape.Passable overflow ∧ word = shape.size := by
  cases overflow with
  | wraps =>
      rw [size?, foldlM_wraps, Option.some.injEq, eq_comm]
      exact ⟨fun same => ⟨passable_wraps shape, same⟩, And.right⟩
  | stops =>
      rw [size?, foldlM_stops_eq_some_iff]
      simp only [UInt64.toNat_one, Nat.one_mul, Passable, forall_const, size]

end Shape

namespace Tensor

variable {overflow : Overflow} {tensor : Tensor}

theorem consistent?_eq_some_iff {complete : Bool} :
    tensor.consistent? overflow = some complete ↔ tensor.shape.Passable overflow ∧
      complete = (tensor.payload.length == tensor.shape.size.toNat) := by
  rw [consistent?, Option.map_eq_some_iff]
  constructor
  · rintro ⟨word, product, rfl⟩
    rcases Shape.size?_eq_some_iff.mp product with ⟨passable, rfl⟩
    exact ⟨passable, rfl⟩
  · rintro ⟨passable, rfl⟩
    exact ⟨tensor.shape.size, Shape.size?_eq_some_iff.mpr ⟨passable, rfl⟩, rfl⟩

/-- The program stops at sizes that it cannot get through. -/
theorem consistent?_eq_none (beyond : ¬ tensor.shape.Passable overflow) :
    tensor.consistent? overflow = none := by
  rw [Option.eq_none_iff_forall_ne_some]
  exact fun complete found => beyond (consistent?_eq_some_iff.mp found).1

/-- What is found to be complete has as many elements as the product is as a word. -/
theorem consistent?_eq_some_true_iff :
    tensor.consistent? overflow = some true ↔ tensor.shape.Passable overflow ∧
      tensor.payload.length = tensor.shape.size.toNat := by
  rw [consistent?_eq_some_iff, eq_comm, beq_iff_eq]

theorem consistent_iff : tensor.consistent = true ↔ tensor.consistent? .stops = some true :=
  beq_iff_eq

/-- A program that stops takes no remainder for the number. -/
theorem length_eq_count (consistent : tensor.consistent? .stops = some true) :
    tensor.payload.length = tensor.shape.count := by
  have ⟨passable, complete⟩ := consistent?_eq_some_true_iff.mp consistent
  exact complete.trans ((tensor.shape.toNat_size_eq_count_iff).mpr passable.count_lt)

end Tensor

end OnnxForge

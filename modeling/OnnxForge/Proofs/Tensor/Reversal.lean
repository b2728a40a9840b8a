import OnnxForge.Proofs.Graph.Tensors
import OnnxForge.Proofs.Grid
import OnnxForge.Proofs.Tensor.Scalars
import OnnxForge.Tensor.Reversal

/-!
# Reversing the axes twice

The tensor of a view along reversed axes has at every reversed index what the original has at
the index. Since the elements of a tensor are told by their indices, seeing that tensor along
reversed axes gives the original back. That holds for tensors of any rank, and for axes of a
single size or of none as for others.
-/

namespace OnnxForge

/-! ## Offsets -/

theorem Shape.indices_eq_cells (sizes : List Nat) : indices sizes = cells sizes := by
  induction sizes with
  | nil => rfl
  | cons size sizes ih => rw [indices, cells, ih]

theorem Shape.offset_cons (size coordinate : Nat) (sizes cell : List Nat) :
    offset (size :: sizes) (coordinate :: cell) = coordinate * sizes.prod + offset sizes cell :=
  rfl

/-- Where lists of one length are put together, each begins at a multiple of the length. -/
theorem getElem?_flatMap_of_length {α β : Type} {items : List α} {make : α → List β}
    {length place : Nat} (each : ∀ item ∈ items, (make item).length = length)
    (below : place < length) (index : Nat) :
    (items.flatMap make)[index * length + place]? =
      items[index]?.bind fun item => (make item)[place]? := by
  induction items generalizing index with
  | nil => rfl
  | cons item rest ih =>
      have ⟨first, others⟩ := List.forall_mem_cons.mp each
      rw [List.flatMap_cons]
      cases index with
      | zero =>
          rw [Nat.zero_mul, Nat.zero_add, List.getElem?_append_left (by omega)]
          rfl
      | succ index =>
          have after : (index + 1) * length + place = (make item).length +
              (index * length + place) := by
            rw [Nat.succ_mul, first]
            omega
          rw [after, List.getElem?_append_right (Nat.le_add_right _ _), Nat.add_sub_cancel_left,
            ih others, List.getElem?_cons_succ]

/-- The offset of a cell is its place among all. -/
theorem getElem?_cells {cell sizes : List Nat} (member : cell ∈ cells sizes) :
    (cells sizes)[Shape.offset sizes cell]? = some cell := by
  induction sizes generalizing cell with
  | nil =>
      obtain rfl := List.mem_singleton.mp member
      rfl
  | cons size sizes ih =>
      cases cell with
      | nil => cases length_of_mem_cells member
      | cons coordinate rest =>
          have ⟨below, memberRest⟩ := mem_cells_cons.mp member
          have place := ih memberRest
          have within := (List.getElem?_eq_some_iff.mp place).1
          rw [length_cells] at within
          rw [cells, Shape.offset_cons, getElem?_flatMap_of_length
            (fun _ _ => by rw [List.length_map, length_cells]) within,
            List.getElem?_range below, Option.bind_some, List.getElem?_map, place]
          rfl

theorem mem_cells_reverse {cell sizes : List Nat} :
    cell.reverse ∈ cells sizes.reverse ↔ cell ∈ cells sizes := by
  rw [mem_cells_iff, mem_cells_iff, List.forall₂_reverse_iff]

namespace Grid

variable {α : Type} {grid : Grid α} {cell : List Nat}

/-- The element in a cell is found at the offset of the cell. -/
theorem at?_eq_getElem? (member : cell ∈ cells grid.shape) :
    grid.at? cell = grid.elements[Shape.offset grid.shape cell]? := by
  have place := getElem?_cells member
  have within := (List.getElem?_eq_some_iff.mp place).1
  rw [length_cells, ← grid.complete] at within
  have element := List.getElem?_eq_getElem within
  have entry : grid.entries[Shape.offset grid.shape cell]? = some (cell, _) :=
    List.getElem?_zip_eq_some.mpr ⟨place, element⟩
  rw [element]
  exact at?_of_mem (List.mem_of_getElem? entry)

/-- Grids of one shape with the same elements in their cells are the same. -/
theorem ext_at? {other : Grid α} (shape : grid.shape = other.shape)
    (same : ∀ cell ∈ cells grid.shape, grid.at? cell = other.at? cell) : grid = other := by
  refine Grid.ext shape (List.map_injective_iff.mpr (fun _ _ => Option.some.inj) ?_)
  rw [← map_at?, ← map_at?, ← shape]
  exact List.map_congr_left same

/-! ## Grids along reversed axes -/

theorem map_some_filterMap {β : Type} {find? : β → Option α} {items : List β}
    (each : ∀ item ∈ items, ∃ value, find? item = some value) :
    (items.filterMap find?).map some = items.map find? := by
  rcases exists_mapM_eq_some each with ⟨values, found⟩
  have same := mapM_eq_some.mp found
  have kept : items.filterMap find? = values := by
    rw [← Function.id_comp find?, ← List.filterMap_map, same]
    simp
  rw [kept, same]

/-- The elements along reversed axes are those in the reversed cells. -/
theorem map_reverseAxes (grid : Grid α) :
    (reverseAxes grid.shape grid.elements).map some =
      (cells grid.shape.reverse).map fun cell => grid.at? cell.reverse := by
  have found : ∀ cell ∈ cells grid.shape.reverse,
      grid.elements.toArray[Shape.offset grid.shape cell.reverse]? = grid.at? cell.reverse := by
    intro cell member
    rw [← cell.reverse_reverse, mem_cells_reverse] at member
    rw [at?_eq_getElem? member, List.getElem?_toArray]
  rw [← List.map_congr_left found, reverseAxes, Shape.indices_eq_cells]
  refine map_some_filterMap fun cell member => ?_
  rw [found cell member]
  rw [← cell.reverse_reverse, mem_cells_reverse] at member
  rcases exists_at? member with ⟨element, _, isElement⟩
  exact ⟨element, isElement⟩

/-- A grid seen with its axes in reverse order. -/
def reversed (grid : Grid α) : Grid α where
  shape := grid.shape.reverse
  elements := reverseAxes grid.shape grid.elements
  complete := by
    rw [← length_cells, ← List.length_map, map_reverseAxes, List.length_map]

theorem at?_reversed (member : cell ∈ cells grid.shape) :
    grid.reversed.at? cell.reverse = grid.at? cell := by
  have whole := grid.reversed.map_at?
  change (cells grid.shape.reverse).map grid.reversed.at? =
    (reverseAxes grid.shape grid.elements).map some at whole
  rw [map_reverseAxes] at whole
  have each := List.map_inj_left.mp whole _ (mem_cells_reverse.mpr member)
  rwa [List.reverse_reverse] at each

theorem reversed_reversed (grid : Grid α) : grid.reversed.reversed = grid := by
  have shape : grid.reversed.reversed.shape = grid.shape := List.reverse_reverse _
  refine ext_at? shape fun cell member => ?_
  rw [shape] at member
  rw [← cell.reverse_reverse, at?_reversed (mem_cells_reverse.mpr member), at?_reversed member,
    List.reverse_reverse]

end Grid

/-! ## Lists along reversed axes -/

section Lists

variable {α : Type} {sizes : List Nat} {elements : List α}

theorem length_reverseAxes (filled : elements.length = sizes.prod) :
    (reverseAxes sizes elements).length = sizes.prod := by
  have complete := (Grid.reversed ⟨sizes, elements, filled⟩).complete
  exact complete.trans (List.reverse_perm sizes).prod_eq

theorem reverseAxes_reverseAxes (filled : elements.length = sizes.prod) :
    reverseAxes sizes.reverse (reverseAxes sizes elements) = elements :=
  congrArg Grid.elements (Grid.reversed_reversed ⟨sizes, elements, filled⟩)

theorem reverseAxes_map {β : Type} (make : α → β) :
    reverseAxes sizes (elements.map make) = (reverseAxes sizes elements).map make := by
  simp only [reverseAxes, List.getElem?_toArray, List.getElem?_map, List.map_filterMap]

end Lists

namespace Elements

theorem scalars_reverseAxes (sizes : List Nat) (elements : Elements) :
    (elements.reverseAxes sizes).payload.scalars =
      OnnxForge.reverseAxes sizes elements.payload.scalars := by
  cases elements <;> simp only [reverseAxes, payload, Payload.scalars, reverseAxes_map]

theorem reverseAxes_reverseAxes {sizes : List Nat} {elements : Elements}
    (filled : elements.payload.length = sizes.prod) :
    (elements.reverseAxes sizes).reverseAxes sizes.reverse = elements := by
  cases elements <;> simp only [payload, Payload.length, List.length_map] at filled <;>
    simp only [reverseAxes, OnnxForge.reverseAxes_reverseAxes filled]

end Elements

namespace Tensor

variable {elements : Elements} {shape : Shape}

/-- The elements of a tensor in the cells of its shape, if there is one for each. -/
def grid? (tensor : Tensor) : Option (Grid Scalar) :=
  Grid.ofElements? (tensor.shape.map UInt64.toNat) tensor.payload.scalars

theorem exists_grid? {tensor : Tensor}
    (filled : tensor.payload.length = (tensor.shape.map UInt64.toNat).prod) :
    ∃ grid, tensor.grid? = some grid :=
  ⟨⟨_, _, tensor.payload.length_scalars.trans filled⟩,
    Grid.ofElements?_eq_some.mpr ⟨rfl, rfl⟩⟩

/-- Where there is an element for each cell, and there are elements if the program stops at
products that are no words, only their number may be too large for a word. -/
theorem consistent?_iff_of_filled {tensor : Tensor} {overflow : Overflow}
    (filled : tensor.payload.length = (tensor.shape.map UInt64.toNat).prod)
    (occupied : overflow = .stops → 0 < tensor.payload.length) :
    tensor.consistent? overflow = some true ↔ tensor.payload.length < Nat.pow 2 64 := by
  have count : tensor.payload.length = tensor.shape.count := filled
  rw [consistent?_eq_some_true_iff, count, eq_comm, Shape.toNat_size_eq_count_iff]
  refine ⟨And.right, fun small => ⟨fun stops => ?_, small⟩⟩
  exact Shape.passable_of_count_lt (count ▸ occupied stops) small .stops rfl

theorem grid?_ofReversed {source : Grid Scalar}
    (found : (ofElements elements shape).grid? = some source) :
    (ofReversed elements shape).grid? = some source.reversed := by
  have ⟨sameShape, sameElements⟩ := Grid.ofElements?_eq_some.mp found
  refine Grid.ofElements?_eq_some.mpr ⟨?_, ?_⟩
  · exact (congrArg List.reverse sameShape).trans (List.map_reverse).symm
  · change reverseAxes source.shape source.elements =
      (elements.reverseAxes (shape.map UInt64.toNat)).payload.scalars
    rw [Elements.scalars_reverseAxes, sameShape, sameElements]
    rfl

/--
Elements that fill a shape are seen with the axes in reverse order.  The tensor has the sizes in
reverse order, and at every reversed index the element that the original has at the index; it is
found to be complete as long as a word can tell how many elements there are, if there are any or
products wrap around; and seen with its axes in reverse order once more it is the original
again.
-/
theorem reversal_exact (elements : Elements) (shape : Shape)
    (filled : elements.payload.length = (shape.map UInt64.toNat).prod) :
    let reversed := ofReversed elements shape
    reversed.elementType = elements.elementType ∧
    reversed.shape = shape.reverse ∧
    (reversed.consistent? .wraps = some true ↔ elements.payload.length < Nat.pow 2 64) ∧
    (0 < elements.payload.length →
      (reversed.consistent? .stops = some true ↔ elements.payload.length < Nat.pow 2 64)) ∧
    (∃ source made, (ofElements elements shape).grid? = some source ∧
      reversed.grid? = some made ∧
      ∀ index, List.Forall₂ (· < ·) index (shape.map UInt64.toNat) →
        ∃ element, source.at? index = some element ∧
          made.at? index.reverse = some element) ∧
    ofReversed (elements.reverseAxes (shape.map UInt64.toNat)) reversed.shape =
      ofElements elements shape := by
  intro reversed
  have ⟨source, found⟩ : ∃ source, (ofElements elements shape).grid? = some source :=
    exists_grid? filled
  have made := grid?_ofReversed found
  have sizes : source.shape = shape.map UInt64.toNat :=
    (Grid.ofElements?_eq_some.mp found).1
  have turned : reversed.shape.map UInt64.toNat = (shape.map UInt64.toNat).reverse :=
    List.map_reverse
  have length : reversed.payload.length = elements.payload.length := by
    rw [← Payload.length_scalars, ← Payload.length_scalars]
    change (elements.reverseAxes _).payload.scalars.length = _
    have all := elements.payload.length_scalars.trans filled
    rw [Elements.scalars_reverseAxes, length_reverseAxes all, all]
  have whole : reversed.payload.length = (reversed.shape.map UInt64.toNat).prod := by
    rw [length, filled, turned]
    exact (List.reverse_perm _).prod_eq.symm
  refine ⟨?_, rfl, ?_, fun occupied => ?_,
    ⟨source, source.reversed, found, made, fun index within => ?_⟩, ?_⟩
  · cases elements <;> rfl
  · rw [← length]
    exact consistent?_iff_of_filled whole nofun
  · rw [← length] at occupied ⊢
    exact consistent?_iff_of_filled whole fun _ => occupied
  · have member : index ∈ cells source.shape := sizes ▸ mem_cells_iff.mpr within
    rcases Grid.exists_at? member with ⟨element, _, isElement⟩
    exact ⟨element, isElement, (Grid.at?_reversed member).trans isElement⟩
  · rw [ofReversed, turned, Elements.reverseAxes_reverseAxes filled]
    exact congrArg (ofElements elements) (List.reverse_reverse shape)

/-- Two rows of three octets become three columns of two, and rows again. -/
theorem reversal_exact_of_rows :
    ofReversed (.uint8 [1, 2, 3, 4, 5, 6]) [2, 1, 3] =
      ⟨.uint8, [3, 1, 2], .int32 [1, 4, 2, 5, 3, 6]⟩ ∧
    (ofReversed (.uint8 [1, 2, 3, 4, 5, 6]) [2, 1, 3]).consistent? .stops = some true ∧
    ofReversed (.uint8 [1, 4, 2, 5, 3, 6]) [3, 1, 2] =
      ⟨.uint8, [2, 1, 3], .int32 [1, 2, 3, 4, 5, 6]⟩ := by
  have ⟨_, _, _, complete, _, back⟩ :=
    reversal_exact (.uint8 [1, 2, 3, 4, 5, 6]) [2, 1, 3] (by decide)
  exact ⟨by decide, (complete (by decide)).mpr (by decide), back⟩

end Tensor

end OnnxForge

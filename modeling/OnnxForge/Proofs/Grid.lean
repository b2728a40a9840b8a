import Mathlib.Algebra.BigOperators.Group.List.Basic
import Mathlib.Data.List.Forall2
import Mathlib.Data.List.Nodup

/-!
# Grids

A grid is a box of some sizes with an element in each of its cells. Cells are told by their
coordinates along the axes. They stand in row-major order, and so do the elements.
-/

namespace OnnxForge

/-! ## Cells -/

/-- The cells of a box of these sizes, in row-major order. A box without axes is one cell. -/
def cells : List Nat → List (List Nat)
  | [] => [[]]
  | size :: sizes =>
    (List.range size).flatMap fun coordinate => (cells sizes).map (coordinate :: ·)

theorem length_cells (sizes : List Nat) : (cells sizes).length = sizes.prod := by
  induction sizes with
  | nil => rfl
  | cons size sizes ih => simp [cells, List.length_flatMap, ih]

theorem mem_cells_cons {size coordinate : Nat} {sizes rest : List Nat} :
    coordinate :: rest ∈ cells (size :: sizes) ↔ coordinate < size ∧ rest ∈ cells sizes := by
  simp [cells]

/-- A cell has a coordinate below the size along every axis. -/
theorem mem_cells_iff {cell sizes : List Nat} :
    cell ∈ cells sizes ↔ List.Forall₂ (· < ·) cell sizes := by
  induction sizes generalizing cell with
  | nil => simp [cells]
  | cons size sizes ih =>
      cases cell with
      | nil => simp [cells]
      | cons coordinate rest => rw [mem_cells_cons, ih, List.forall₂_cons]

theorem length_of_mem_cells {cell sizes : List Nat} (member : cell ∈ cells sizes) :
    cell.length = sizes.length :=
  (mem_cells_iff.mp member).length_eq

/-- A cell has a coordinate along every axis, which is below the size. -/
theorem exists_coordinate {cell sizes : List Nat} {axis size : Nat} (member : cell ∈ cells sizes)
    (sizeAt : sizes[axis]? = some size) :
    ∃ coordinate < size, cell[axis]? = some coordinate := by
  rw [mem_cells_iff] at member
  induction member generalizing axis with
  | nil => cases sizeAt
  | cons below _ ih =>
      cases axis with
      | zero =>
          cases sizeAt
          exact ⟨_, below, rfl⟩
      | succ axis => exact ih sizeAt

/-- A cell where an axis has one position gives one at every other position. -/
theorem set_mem_cells {cell sizes : List Nat} {axis coordinate size : Nat}
    (member : cell ∈ cells (sizes.set axis 1)) (sizeAt : sizes[axis]? = some size)
    (below : coordinate < size) :
    cell.set axis coordinate ∈ cells sizes := by
  induction sizes generalizing cell axis with
  | nil => cases sizeAt
  | cons first rest ih =>
      cases cell with
      | nil => cases axis <;> cases length_of_mem_cells member
      | cons leading others =>
          cases axis with
          | zero =>
              cases sizeAt
              exact mem_cells_cons.mpr ⟨below, (mem_cells_cons.mp member).2⟩
          | succ axis =>
              have ⟨belowFirst, memberRest⟩ := mem_cells_cons.mp member
              exact mem_cells_cons.mpr ⟨belowFirst, ih memberRest sizeAt⟩

theorem nodup_cells (sizes : List Nat) : (cells sizes).Nodup := by
  induction sizes with
  | nil => exact List.nodup_cons.mpr ⟨List.not_mem_nil, List.nodup_nil⟩
  | cons size sizes ih =>
      refine List.nodup_flatMap.mpr ⟨fun coordinate _ => ih.map List.cons_injective, ?_⟩
      refine List.nodup_range.imp fun different cell first second => ?_
      rcases List.mem_map.mp first with ⟨_, _, rfl⟩
      rcases List.mem_map.mp second with ⟨_, _, same⟩
      exact different (List.cons.inj same).1.symm

/-- The cells of a box with the axes of two boxes. -/
theorem cells_append (first second : List Nat) :
    cells (first ++ second) = (cells first).flatMap fun cell => (cells second).map (cell ++ ·) := by
  induction first with
  | nil => simp [cells]
  | cons size sizes ih =>
      simp only [List.cons_append, cells, ih, List.map_flatMap, List.flatMap_assoc,
        List.flatMap_map, List.map_map]
      rfl

/-! ## Entries along some axes -/

/-- A list with one entry for each axis from `first` on, where the entries of the given axes
give way to a new one or are dropped. -/
def collapse (axes : List Nat) (unit : Option Nat) (first : Nat) : List Nat → List Nat
  | [] => []
  | entry :: rest =>
    (if first ∈ axes then unit.toList else [entry]) ++ collapse axes unit (first + 1) rest

section Collapse

variable {axes others sizes cell source : List Nat} {unit : Option Nat} {first : Nat}

/-- No entry is left exactly if all axes are dropped. -/
theorem collapse_none_eq_nil_iff {entries : List Nat} :
    collapse axes none first entries = [] ↔
      ∀ axis, first ≤ axis → axis < first + entries.length → axis ∈ axes := by
  induction entries generalizing first with
  | nil => exact iff_of_true rfl fun axis above below => (Nat.not_lt_of_le above below).elim
  | cons entry rest ih =>
      rw [collapse, List.append_eq_nil_iff, ih, List.length_cons]
      by_cases dropped : first ∈ axes
      · simp only [if_pos dropped, Option.toList_none, true_and]
        constructor
        · intro later axis above below
          rcases Nat.eq_or_lt_of_le above with rfl | beyond
          · exact dropped
          · exact later axis beyond (by omega)
        · exact fun all axis above below => all axis (by omega) (by omega)
      · simp only [if_neg dropped, List.cons_ne_nil, false_and, false_iff]
        exact fun all => dropped (all first (by omega) (by omega))

/-- It only counts which axes are among those of the box. -/
theorem collapse_congr {entries : List Nat}
    (same : ∀ axis, first ≤ axis → axis < first + entries.length → (axis ∈ axes ↔ axis ∈ others)) :
    collapse axes unit first entries = collapse others unit first entries := by
  induction entries generalizing first with
  | nil => rfl
  | cons entry rest ih =>
      rw [List.length_cons] at same
      rw [collapse, collapse, ih fun axis above below => same axis (by omega) (by omega)]
      simp only [same first (by omega) (by omega)]

theorem collapse_nil (entries : List Nat) : collapse [] unit first entries = entries := by
  induction entries generalizing first with
  | nil => rfl
  | cons entry rest ih => rw [collapse, ih, if_neg List.not_mem_nil, List.singleton_append]

theorem getElem?_collapse {value : Nat} (entries : List Nat) (index : Nat) :
    (collapse axes (some value) first entries)[index]? =
      entries[index]?.map fun entry => if first + index ∈ axes then value else entry := by
  induction entries generalizing first index with
  | nil => rfl
  | cons entry rest ih =>
      have head : (if first ∈ axes then (some value).toList else [entry]) =
          [if first ∈ axes then value else entry] := by
        split <;> rfl
      rw [collapse, head, List.singleton_append]
      cases index with
      | zero => simp
      | succ index => simp [ih, Nat.add_comm, Nat.add_left_comm]

theorem length_collapse {value : Nat} (entries : List Nat) :
    (collapse axes (some value) first entries).length = entries.length := by
  induction entries generalizing first with
  | nil => rfl
  | cons entry rest ih =>
      rw [collapse, List.length_append, ih, List.length_cons]
      split <;> exact Nat.add_comm _ _

/-- One more axis gives way to a new entry. -/
theorem collapse_cons {value axis : Nat} (entries : List Nat) :
    collapse (axis :: axes) (some value) 0 entries =
      (collapse axes (some value) 0 entries).set axis value := by
  refine List.ext_getElem? fun index => ?_
  rw [List.getElem?_set, length_collapse, getElem?_collapse, getElem?_collapse, Nat.zero_add]
  by_cases here : axis = index
  · subst here
    by_cases within : axis < entries.length
    · simp [within]
    · simp [within]
  · simp [here, Ne.symm here]

/-- Entries that are dropped may give way to others before. -/
theorem collapse_collapse {value : Nat} (entries : List Nat) :
    collapse axes none first (collapse axes (some value) first entries) =
      collapse axes none first entries := by
  induction entries generalizing first with
  | nil => rfl
  | cons entry rest ih =>
      by_cases collapsed : first ∈ axes
      · simp [collapse, collapsed, ih]
      · simp [collapse, collapsed, ih]

theorem mem_cells_collapse (member : cell ∈ cells sizes) :
    collapse axes (some 0) first cell ∈ cells (collapse axes (some 1) first sizes) := by
  rw [mem_cells_iff] at member ⊢
  induction member generalizing first with
  | nil => exact .nil
  | cons below _ ih =>
      rw [collapse, collapse]
      split
      · exact .cons Nat.zero_lt_one ih
      · exact .cons below ih

/-- Without axes of one position the cells stay in their order. -/
theorem cells_collapse (sizes : List Nat) :
    cells (collapse axes none first sizes) =
      (cells (collapse axes (some 1) first sizes)).map (collapse axes none first) := by
  induction sizes generalizing first with
  | nil => rfl
  | cons size sizes ih =>
      by_cases collapsed : first ∈ axes
      · simp [collapse, collapsed, ih, cells, Function.comp_def]
      · simp [collapse, collapsed, ih, cells, Function.comp_def, List.map_flatMap]

/-- A cell with zero along the given axes is told by its other coordinates. -/
theorem collapse_eq_iff (member : cell ∈ cells (collapse axes (some 1) first sizes))
    (sameLength : source.length = sizes.length) :
    collapse axes (some 0) first source = cell ↔
      collapse axes none first source = collapse axes none first cell := by
  induction sizes generalizing first cell source with
  | nil =>
      obtain rfl := List.eq_nil_of_length_eq_zero sameLength
      obtain rfl := List.mem_singleton.mp member
      exact iff_of_true rfl rfl
  | cons size sizes ih =>
      rcases source with _ | ⟨entry, rest⟩
      · cases sameLength
      · have sameRest : rest.length = sizes.length := Nat.succ.inj sameLength
        by_cases collapsed : first ∈ axes
        · simp only [collapse, collapsed, if_true, Option.toList_some, List.singleton_append,
            Option.toList_none, List.nil_append] at member ⊢
          rcases cell with _ | ⟨coordinate, others⟩
          · cases length_of_mem_cells member
          · have ⟨below, memberRest⟩ := mem_cells_cons.mp member
            obtain rfl := Nat.lt_one_iff.mp below
            simp [collapse, collapsed, ih memberRest sameRest]
        · simp only [collapse, collapsed, if_false, List.singleton_append] at member ⊢
          rcases cell with _ | ⟨coordinate, others⟩
          · cases length_of_mem_cells member
          · have ⟨_, memberRest⟩ := mem_cells_cons.mp member
            simp [collapse, collapsed, ih memberRest sameRest]

end Collapse

/-! ## Grids -/

/-- A box with an element in each cell, in the order of the cells. -/
@[ext]
structure Grid (α : Type) where
  shape : List Nat
  elements : List α
  complete : elements.length = shape.prod
deriving DecidableEq

namespace Grid

variable {α : Type} {grid : Grid α} {shape cell : List Nat}

/-- The number of axes. -/
def rank (grid : Grid α) : Nat :=
  grid.shape.length

/-- The cells with their elements. -/
def entries (grid : Grid α) : List (List Nat × α) :=
  (cells grid.shape).zip grid.elements

/-- The element in a cell, if there is that cell. -/
def at? (grid : Grid α) (cell : List Nat) : Option α :=
  grid.entries.lookup cell

/-- The grid of some elements, if they fill the box. -/
def ofElements? (shape : List Nat) (elements : List α) : Option (Grid α) :=
  if complete : elements.length = shape.prod then some ⟨shape, elements, complete⟩ else none

/-- The grid with the given elements in its cells. -/
def ofCells (shape : List Nat) (element : List Nat → α) : Grid α :=
  ⟨shape, (cells shape).map element, (List.length_map _).trans (length_cells shape)⟩

/-- The grid with the given elements in its cells, if there is one for each. -/
def ofCells? (shape : List Nat) (element? : List Nat → Option α) : Option (Grid α) :=
  (cells shape).mapM element? >>= ofElements? shape

/-- The same elements in another box. -/
def reshape? (grid : Grid α) (shape : List Nat) : Option (Grid α) :=
  ofElements? shape grid.elements

/-- The elements in a vector. -/
def flat (grid : Grid α) : Grid α :=
  ⟨[grid.elements.length], grid.elements, List.prod_singleton.symm⟩

/-- A grid with an axis: a single value becomes a vector of one element. -/
def carried (grid : Grid α) : Grid α where
  shape := if grid.shape = [] then [1] else grid.shape
  elements := grid.elements
  complete := by
    rw [grid.complete]
    split
    next scalar => rw [scalar]; rfl
    next => rfl

theorem carried_of_pos (positive : 0 < grid.rank) : grid.carried = grid :=
  Grid.ext (if_neg (List.ne_nil_of_length_pos positive)) rfl

theorem map_fst_entries (grid : Grid α) : grid.entries.map (·.1) = cells grid.shape :=
  List.map_fst_zip (Nat.le_of_eq ((length_cells _).trans grid.complete.symm))

theorem mem_cells_of_mem_entries {entry : List Nat × α} (member : entry ∈ grid.entries) :
    entry.1 ∈ cells grid.shape :=
  grid.map_fst_entries ▸ List.mem_map_of_mem member

theorem map_snd_entries (grid : Grid α) : grid.entries.map (·.2) = grid.elements :=
  List.map_snd_zip (Nat.le_of_eq (grid.complete.trans (length_cells _).symm))

/-- What stands by different keys is found by them. -/
theorem lookup_of_mem {κ : Type} [BEq κ] [LawfulBEq κ] {entries : List (κ × α)} {key : κ}
    {value : α} (distinct : (entries.map (·.1)).Nodup) (member : (key, value) ∈ entries) :
    entries.lookup key = some value := by
  induction entries with
  | nil => cases member
  | cons entry rest ih =>
      have ⟨apart, distinctRest⟩ := List.nodup_cons.mp distinct
      rcases List.mem_cons.mp member with rfl | later
      · simp
      · have present : key ∈ rest.map (·.1) := List.mem_map.mpr ⟨_, later, rfl⟩
        have different : key ≠ entry.1 := by
          rintro rfl
          exact apart present
        rw [List.lookup_cons, beq_false_of_ne different]
        exact ih distinctRest later

theorem at?_of_mem {element : α} (member : (cell, element) ∈ grid.entries) :
    grid.at? cell = some element :=
  lookup_of_mem (grid.map_fst_entries ▸ nodup_cells grid.shape) member

/-- The elements in the cells, in their order, are all there are. -/
theorem map_at? (grid : Grid α) : (cells grid.shape).map grid.at? = grid.elements.map some := by
  rw [← map_fst_entries, ← map_snd_entries, List.map_map, List.map_map]
  exact List.map_congr_left fun entry member => at?_of_mem member

theorem exists_at? (member : cell ∈ cells grid.shape) :
    ∃ element ∈ grid.elements, grid.at? cell = some element := by
  rw [← map_fst_entries] at member
  rcases List.mem_map.mp member with ⟨entry, present, rfl⟩
  exact ⟨entry.2, grid.map_snd_entries ▸ List.mem_map_of_mem present, at?_of_mem present⟩

theorem at?_ofCells (element : List Nat → α) (member : cell ∈ cells shape) :
    (ofCells shape element).at? cell = some (element cell) := by
  have whole := (ofCells shape element).map_at?
  change (cells shape).map (ofCells shape element).at? =
    ((cells shape).map element).map some at whole
  rw [List.map_map] at whole
  exact List.map_inj_left.mp whole cell member

theorem ofCells_congr {first second : List Nat → α}
    (same : ∀ cell ∈ cells shape, first cell = second cell) :
    ofCells shape first = ofCells shape second :=
  Grid.ext rfl (List.map_congr_left same)

theorem ofElements?_eq_some {elements : List α} :
    ofElements? shape elements = some grid ↔ grid.shape = shape ∧ grid.elements = elements := by
  rw [ofElements?]
  split
  next complete =>
    constructor
    · intro same
      cases same
      exact ⟨rfl, rfl⟩
    · rintro ⟨rfl, rfl⟩
      rfl
  next incomplete =>
    constructor
    · intro same
      cases same
    · rintro ⟨rfl, rfl⟩
      exact (incomplete grid.complete).elim

theorem reshape?_eq_some {reshaped : Grid α} :
    grid.reshape? shape = some reshaped ↔
      reshaped.shape = shape ∧ reshaped.elements = grid.elements :=
  ofElements?_eq_some

/-- Values are found for all items of a list if every item has one. -/
theorem mapM_eq_some {β : Type} {find? : β → Option α} {items : List β} {values : List α} :
    items.mapM find? = some values ↔ items.map find? = values.map some := by
  induction items generalizing values with
  | nil => cases values <;> simp
  | cons item rest ih =>
      simp only [List.mapM_cons, Option.bind_eq_bind, Option.pure_def, Option.bind_eq_some_iff,
        ih, List.map_cons, Option.some.injEq]
      constructor
      · rintro ⟨value, found, others, foundRest, rfl⟩
        rw [found, foundRest, List.map_cons]
      · intro same
        cases values with
        | nil => cases same
        | cons value others =>
            have ⟨found, foundRest⟩ := List.cons.inj same
            exact ⟨value, found, others, foundRest, rfl⟩

theorem exists_mapM_eq_some {β : Type} {find? : β → Option α} {items : List β}
    (each : ∀ item ∈ items, ∃ value, find? item = some value) :
    ∃ values, items.mapM find? = some values := by
  induction items with
  | nil => exact ⟨[], rfl⟩
  | cons item rest ih =>
      have ⟨⟨value, found⟩, others⟩ := List.forall_mem_cons.mp each
      rcases ih others with ⟨values, foundRest⟩
      refine ⟨value :: values, ?_⟩
      rw [List.mapM_cons, found, foundRest]
      rfl

theorem ofCells?_eq_some {element? : List Nat → Option α} :
    ofCells? shape element? = some grid ↔
      grid.shape = shape ∧ (cells shape).map element? = grid.elements.map some := by
  rw [ofCells?, Option.bind_eq_bind, Option.bind_eq_some_iff]
  constructor
  · rintro ⟨elements, found, filled⟩
    rcases ofElements?_eq_some.mp filled with ⟨sameShape, rfl⟩
    exact ⟨sameShape, mapM_eq_some.mp found⟩
  · rintro ⟨sameShape, found⟩
    exact ⟨grid.elements, mapM_eq_some.mpr found, ofElements?_eq_some.mpr ⟨sameShape, rfl⟩⟩

/-- There is a grid if there is an element for each cell. -/
theorem exists_ofCells? {element? : List Nat → Option α}
    (each : ∀ cell ∈ cells shape, ∃ element, element? cell = some element) :
    ∃ grid, ofCells? shape element? = some grid := by
  rcases exists_mapM_eq_some each with ⟨elements, found⟩
  have lengths := congrArg List.length (mapM_eq_some.mp found)
  rw [List.length_map, List.length_map, length_cells] at lengths
  exact ⟨⟨shape, elements, lengths.symm⟩, ofCells?_eq_some.mpr ⟨rfl, mapM_eq_some.mp found⟩⟩

end Grid

end OnnxForge

import OnnxForge.Proofs.Network.Code.Expressions
import OnnxForge.Proofs.Network.Typing
import OnnxForge.Proofs.Network.Values

/-!
# Slices along an axis

Slices at positions that an index lists are arranged as the index is, whatever its rank. The
three forms of generated code agree on that: a matrix of positions is flattened before its
slices are taken, and a scalar selects as a vector does. Rows that an embedding looks up are
slices along the first axis.
-/

namespace OnnxForge

/-! ## Cells of three boxes -/

section Cells

variable {first second third : List Nat}

theorem map_cells_append {β : Type} (value : List Nat → β) :
    (cells (first ++ second ++ third)).map value =
      (cells first).flatMap fun before => (cells second).flatMap fun middle =>
        (cells third).map fun after => value (before ++ middle ++ after) := by
  simp only [cells_append, List.map_flatMap, List.flatMap_assoc, List.flatMap_map, List.map_map,
    Function.comp_def]

theorem forall_cells_append {holds : List Nat → Prop} :
    (∀ cell ∈ cells (first ++ second ++ third), holds cell) ↔
      ∀ before ∈ cells first, ∀ middle ∈ cells second, ∀ after ∈ cells third,
        holds (before ++ middle ++ after) := by
  simp only [cells_append, List.mem_flatMap, List.mem_map]
  constructor
  · intro all before isBefore middle isMiddle after isAfter
    exact all _ ⟨_, ⟨before, isBefore, middle, isMiddle, rfl⟩, after, isAfter, rfl⟩
  · rintro all _ ⟨_, ⟨before, isBefore, middle, isMiddle, rfl⟩, after, isAfter, rfl⟩
    exact all before isBefore middle isMiddle after isAfter

/-- A box loses the one axis that is dropped. -/
theorem collapse_singleton (axis first : Nat) (entries : List Nat) :
    collapse [first + axis] none first entries = entries.eraseIdx axis := by
  induction entries generalizing axis first with
  | nil => rfl
  | cons entry rest ih =>
      cases axis with
      | zero =>
          have later : collapse [first] none (first + 1) rest = rest := by
            refine (collapse_congr fun axis above _ => ?_).trans (collapse_nil rest)
            rw [List.mem_singleton]
            exact iff_of_false (by omega) List.not_mem_nil
          simp [collapse, later]
      | succ axis =>
          have shifted := ih axis (first + 1)
          rw [Nat.add_right_comm] at shifted
          simp [collapse, ← shifted, Nat.add_assoc]

end Cells

namespace Network

open Attempt

variable {α : Type} {arithmetic : Arithmetic α} {grid index result : Grid α} {axis : Nat}

namespace Arithmetic

/-! ## Slices -/

/-- The element of a tensor at the position that an entry of an index stands for. -/
def slice? (arithmetic : Arithmetic α) (grid : Grid α) (listed? : Option α)
    (before after : List Nat) : Option α := do
  grid.at? (before ++ (← arithmetic.position? (← listed?)) :: after)

/-- Whether a tensor holds the slices of another one at the positions along an axis that an
index lists. The axes of the index stand in the place of that axis. -/
structure Gathers (arithmetic : Arithmetic α) (grid : Grid α) (axis : Nat)
    (index result : Grid α) : Prop where
  shape : result.shape = grid.shape.take axis ++ index.shape ++ grid.shape.drop (axis + 1)
  element : ∀ before ∈ cells (grid.shape.take axis), ∀ middle ∈ cells index.shape,
    ∀ after ∈ cells (grid.shape.drop (axis + 1)),
      result.at? (before ++ middle ++ after) =
        arithmetic.slice? grid (index.at? middle) before after

/-- The slices of a tensor, cell by cell. -/
def gather? (arithmetic : Arithmetic α) (grid : Grid α) (axis : Nat) (index : Grid α) :
    Option (Grid α) :=
  Grid.ofCells? (grid.shape.take axis ++ index.shape ++ grid.shape.drop (axis + 1)) fun cell =>
    arithmetic.slice? grid (index.at? ((cell.drop axis).take index.rank)) (cell.take axis)
      (cell.drop (axis + index.rank))

/-- The elements of slices, in their order. -/
def slices (arithmetic : Arithmetic α) (grid : Grid α) (axis : Nat) (entries : List α) :
    List (Option α) :=
  (cells (grid.shape.take axis)).flatMap fun before => entries.flatMap fun entry =>
    (cells (grid.shape.drop (axis + 1))).map fun after =>
      arithmetic.slice? grid (some entry) before after

theorem length_before (within : axis < grid.rank) {before : List Nat}
    (member : before ∈ cells (grid.shape.take axis)) :
    before.length = axis := by
  rw [length_of_mem_cells member, List.length_take]
  exact Nat.min_eq_left (Nat.le_of_lt within)

/-- The cells of slices come apart again. -/
theorem slice?_append (within : axis < grid.rank) {before middle after : List Nat}
    (isBefore : before ∈ cells (grid.shape.take axis)) (isMiddle : middle ∈ cells index.shape) :
    let cell := before ++ middle ++ after
    arithmetic.slice? grid (index.at? ((cell.drop axis).take index.rank)) (cell.take axis)
        (cell.drop (axis + index.rank)) =
      arithmetic.slice? grid (index.at? middle) before after := by
  have beforeLength := length_before within isBefore
  have middleLength : middle.length = index.rank := length_of_mem_cells isMiddle
  simp only [List.append_assoc]
  rw [← beforeLength, ← middleLength, List.drop_left, List.take_left, List.take_left,
    ← List.drop_drop, List.drop_left, List.drop_left]

theorem gather?_eq_some (within : axis < grid.rank) :
    arithmetic.gather? grid axis index = some result ↔
      arithmetic.Gathers grid axis index result := by
  rw [gather?, Grid.ofCells?_eq_some]
  constructor
  · rintro ⟨shape, same⟩
    rw [← shape, ← result.map_at?, List.map_inj_left, shape, forall_cells_append] at same
    refine ⟨shape, fun before isBefore middle isMiddle after isAfter => ?_⟩
    rw [← same before isBefore middle isMiddle after isAfter,
      slice?_append within isBefore isMiddle]
  · rintro ⟨shape, element⟩
    refine ⟨shape, ?_⟩
    rw [← shape, ← result.map_at?, List.map_inj_left, shape, forall_cells_append]
    intro before isBefore middle isMiddle after isAfter
    rw [element before isBefore middle isMiddle after isAfter,
      slice?_append within isBefore isMiddle]

/-- Slices have the elements that the entries of their index stand for, in their order. -/
theorem gathers_iff (within : axis < grid.rank) :
    arithmetic.Gathers grid axis index result ↔
      result.shape = grid.shape.take axis ++ index.shape ++ grid.shape.drop (axis + 1) ∧
        arithmetic.slices grid axis index.elements = result.elements.map some := by
  rw [← gather?_eq_some within, gather?, Grid.ofCells?_eq_some, map_cells_append, slices]
  refine and_congr_right fun _ => Eq.congr_left ?_
  refine List.flatMap_congr fun before isBefore => ?_
  let along (listed? : Option α) : List (Option α) :=
    (cells (grid.shape.drop (axis + 1))).map (arithmetic.slice? grid listed? before)
  calc
    _ = (cells index.shape).flatMap fun middle => along (index.at? middle) :=
      List.flatMap_congr fun middle isMiddle => List.map_congr_left fun after _ =>
        slice?_append within isBefore isMiddle
    _ = ((cells index.shape).map index.at?).flatMap along := (List.flatMap_map _ _ _).symm
    _ = _ := by rw [index.map_at?, List.flatMap_map]

/-- Slices are told by their index. -/
theorem Gathers.unique {other : Grid α} (within : axis < grid.rank)
    (gathers : arithmetic.Gathers grid axis index result)
    (also : arithmetic.Gathers grid axis index other) :
    result = other :=
  Option.some.inj (((gather?_eq_some within).mpr gathers).symm.trans
    ((gather?_eq_some within).mpr also))

/-- Whether the entries of an index are positions along an axis of a tensor. -/
def Within (arithmetic : Arithmetic α) (index grid : Grid α) (axis : Nat) : Prop :=
  ∀ size, grid.shape[axis]? = some size →
    ∀ entry ∈ index.elements, ∃ position < size, arithmetic.position? entry = some position

instance : Decidable (arithmetic.Within index grid axis) :=
  inferInstanceAs (Decidable (∀ size ∈ grid.shape[axis]?, ∀ entry ∈ index.elements,
    ∃ position < size, arithmetic.position? entry = some position))

theorem set_eq_append (within : axis < grid.rank) (size : Nat) :
    grid.shape.set axis size =
      grid.shape.take axis ++ [size] ++ grid.shape.drop (axis + 1) := by
  rw [List.set_eq_take_append_cons_drop, if_pos (show axis < grid.shape.length from within),
    List.append_assoc, List.singleton_append]

/-- There are as many slices for an index as for the vector of its entries. -/
theorem prod_gathered (within : axis < grid.rank) :
    (grid.shape.take axis ++ index.shape ++ grid.shape.drop (axis + 1)).prod =
      (grid.shape.set axis index.elements.length).prod := by
  rw [set_eq_append within, List.prod_append, List.prod_append, List.prod_append,
    List.prod_append, List.prod_singleton, index.complete]

theorem exists_slice? (within : axis < grid.rank) {entry : α} {position size : Nat}
    {before after : List Nat} (isBefore : before ∈ cells (grid.shape.take axis))
    (isAfter : after ∈ cells (grid.shape.drop (axis + 1))) (sized : grid.shape[axis]? = some size)
    (below : position < size) (stands : arithmetic.position? entry = some position) :
    ∃ element, arithmetic.slice? grid (some entry) before after = some element := by
  have parts : grid.shape = grid.shape.take axis ++ [size] ++ grid.shape.drop (axis + 1) := by
    have ⟨_, isSize⟩ := List.getElem?_eq_some_iff.mp sized
    rw [← set_eq_append within, ← isSize, List.set_getElem_self]
  have member : before ++ position :: after ∈ cells grid.shape := by
    rw [parts, List.append_assoc, cells_append, List.mem_flatMap]
    exact ⟨before, isBefore, List.mem_map.mpr ⟨_, mem_cells_cons.mpr ⟨below, isAfter⟩, rfl⟩⟩
  rcases Grid.exists_at? member with ⟨element, _, found⟩
  refine ⟨element, ?_⟩
  rw [slice?, Option.bind_eq_bind, Option.bind_some, stands]
  exact found

/-- There are slices at all positions along an axis. -/
theorem exists_gathers (within : axis < grid.rank) (positions : arithmetic.Within index grid axis) :
    ∃ result, arithmetic.Gathers grid axis index result := by
  have sized := List.getElem?_eq_getElem within
  have each : ∀ cell ∈ cells (grid.shape.take axis ++ index.shape ++ grid.shape.drop (axis + 1)),
      ∃ element, arithmetic.slice? grid (index.at? ((cell.drop axis).take index.rank))
        (cell.take axis) (cell.drop (axis + index.rank)) = some element := by
    rw [forall_cells_append]
    intro before isBefore middle isMiddle after isAfter
    rcases Grid.exists_at? isMiddle with ⟨entry, isEntry, found⟩
    rcases positions _ sized entry isEntry with ⟨position, below, stands⟩
    rw [slice?_append within isBefore isMiddle, found]
    exact exists_slice? within isBefore isAfter sized below stands
  rcases Grid.exists_ofCells? each with ⟨result, found⟩
  exact ⟨result, (gather?_eq_some within).mp found⟩

/-! ## Operations that take slices -/

theorem map_getElem?_range (entries : List α) :
    ((List.range entries.length).map (entries[·]?)) = entries.map some := by
  refine List.ext_getElem? fun place => ?_
  by_cases below : place < entries.length <;> simp [below]

/-- A vector selects the elements of slices. -/
theorem select?_eq_some (within : axis < grid.rank) (vector : index.rank = 1) :
    arithmetic.select? grid axis index = some result ↔
      result.shape = grid.shape.set axis index.elements.length ∧
        arithmetic.slices grid axis index.elements = result.elements.map some := by
  rw [select?, if_pos ⟨vector, within⟩, Grid.ofCells?_eq_some, set_eq_append within,
    map_cells_append, slices]
  refine and_congr_right fun _ => Eq.congr_left ?_
  refine List.flatMap_congr fun before isBefore => ?_
  have beforeLength := length_before within isBefore
  let along (listed? : Option α) : List (Option α) :=
    (cells (grid.shape.drop (axis + 1))).map (arithmetic.slice? grid listed? before)
  calc
    _ = (List.range index.elements.length).flatMap fun place => along index.elements[place]? := by
      simp only [cells, List.flatMap_assoc, List.map_singleton, List.flatMap_singleton]
      refine List.flatMap_congr fun place _ => List.map_congr_left fun after _ => ?_
      simp [slice?, ← beforeLength]
    _ = ((List.range index.elements.length).map (index.elements[·]?)).flatMap along :=
      (List.flatMap_map _ _ _).symm
    _ = _ := by rw [map_getElem?_range, List.flatMap_map]

/-- Slices are taken by a vector, and arranged as the index is. -/
theorem take?_eq_some (within : axis < grid.rank) :
    arithmetic.take? grid axis index = some result ↔
      arithmetic.Gathers grid axis index result := by
  have vector : index.flat.rank = 1 := rfl
  rw [take?, Option.bind_eq_bind, Option.bind_eq_some_iff, gathers_iff within]
  constructor
  · rintro ⟨selected, found, reshaped⟩
    have ⟨_, elements⟩ := (select?_eq_some within vector).mp found
    have ⟨shape, same⟩ := Grid.reshape?_eq_some.mp reshaped
    exact ⟨shape, same ▸ elements⟩
  · rintro ⟨shape, elements⟩
    have complete : result.elements.length = (grid.shape.set axis index.elements.length).prod := by
      rw [result.complete, shape, prod_gathered within]
    exact ⟨⟨_, result.elements, complete⟩, (select?_eq_some within vector).mpr ⟨rfl, elements⟩,
      Grid.reshape?_eq_some.mpr ⟨shape, rfl⟩⟩

/-- Rows are slices along the first axis. -/
theorem rows?_eq_some (matrix : grid.rank = 2) (ofMatrix : index.rank = 2) :
    arithmetic.rows? grid index = some result ↔ arithmetic.Gathers grid 0 index result := by
  rw [← gather?_eq_some (by omega), rows?, if_pos ⟨matrix, ofMatrix⟩, gather?, ofMatrix]
  exact Iff.rfl

end Arithmetic

namespace Gather

/-! ## Values of the general form -/

variable {environment : Environment α} {operand place : Expression}

theorem rank_carried (few : index.rank ≤ 1) : index.carried.rank = 1 := by
  rcases Nat.eq_zero_or_pos index.rank with scalar | positive
  · have shape : index.carried.shape = [1] := if_pos (List.eq_nil_of_length_eq_zero scalar)
    rw [Grid.rank, shape, List.length_singleton]
  · rw [Grid.carried_of_pos positive]
    omega

theorem rank_gathered (within : axis < grid.rank)
    (gathers : arithmetic.Gathers grid axis index result) :
    result.rank = grid.rank - 1 + index.rank := by
  change result.shape.length = grid.shape.length - 1 + index.shape.length
  change axis < grid.shape.length at within
  rw [gathers.shape, List.length_append, List.length_append, List.length_take, List.length_drop]
  omega

/-- A scalar or a vector selects the elements of slices. -/
theorem exists_selected (within : axis < grid.rank) (few : index.rank ≤ 1)
    (gathers : arithmetic.Gathers grid axis index result) :
    ∃ selected, arithmetic.select? grid axis index.carried = some selected ∧
      selected.shape = grid.shape.set axis index.elements.length ∧
      selected.elements = result.elements := by
  have ⟨shape, elements⟩ := (Arithmetic.gathers_iff within).mp gathers
  have complete : result.elements.length = (grid.shape.set axis index.elements.length).prod := by
    rw [result.complete, shape, Arithmetic.prod_gathered within]
  exact ⟨⟨_, result.elements, complete⟩,
    (Arithmetic.select?_eq_some within (rank_carried few)).mpr ⟨rfl, elements⟩, rfl, rfl⟩

/-- A selected axis of one position is dropped. -/
theorem squeeze?_selected {selected : Grid α} (within : axis < grid.rank) (more : 1 < grid.rank)
    (scalar : index.rank = 0) (gathers : arithmetic.Gathers grid axis index result)
    (shape : selected.shape = grid.shape.set axis index.elements.length)
    (elements : selected.elements = result.elements) :
    squeeze? selected (resultRank grid.rank index.rank) [axis] = some result := by
  have none : index.shape = [] := List.eq_nil_of_length_eq_zero scalar
  have single : index.elements.length = 1 := by rw [index.complete, none, List.prod_nil]
  have rank : selected.rank = grid.rank := by
    rw [Grid.rank, shape, List.length_set]
    rfl
  have one : selected.shape[axis]? = some 1 := by
    rw [shape, single, List.getElem?_set_self within]
  rw [squeeze?, if_pos]
  · refine Grid.reshape?_eq_some.mpr ⟨?_, elements.symm⟩
    have dropped := collapse_singleton axis 0 selected.shape
    rw [Nat.zero_add] at dropped
    rw [dropped, shape, List.eraseIdx_set_eq, List.eraseIdx_eq_take_drop_succ, gathers.shape, none,
      List.append_nil]
  · refine ⟨List.nodup_singleton axis, List.forall_mem_singleton.mpr one, ?_, ?_⟩
    · rw [rank, scalar, resultRank]
      exact Nat.max_eq_left (by omega)
    · exact Nat.le_max_right _ _

/-- Selected slices stay as they are for a vector, and where nothing but the axis is selected. -/
theorem shape_selected (within : axis < grid.rank) (few : index.rank ≤ 1)
    (kept : ¬(index.rank = 0 ∧ 1 < grid.rank))
    (gathers : arithmetic.Gathers grid axis index result) :
    result.carried.shape = grid.shape.set axis index.elements.length := by
  have rank := rank_gathered within gathers
  rw [Arithmetic.set_eq_append within]
  rcases Nat.eq_zero_or_pos index.rank with scalar | vector
  · have none : index.shape = [] := List.eq_nil_of_length_eq_zero scalar
    have single : index.elements.length = 1 := by rw [index.complete, none, List.prod_nil]
    have empty : result.shape = [] := List.eq_nil_of_length_eq_zero (by rw [← Grid.rank]; omega)
    have carried : result.carried.shape = [1] := if_pos empty
    have gathered := gathers.shape
    rw [empty, none, List.append_nil, eq_comm, List.append_eq_nil_iff] at gathered
    rw [carried, single, gathered.1, gathered.2]
    rfl
  · rcases List.length_eq_one_iff.mp (show index.shape.length = 1 from Nat.le_antisymm few vector)
      with ⟨size, shape⟩
    have counted : index.elements.length = size := by
      rw [index.complete, shape, List.prod_singleton]
    rw [Grid.carried_of_pos (by omega), gathers.shape, shape, counted]

/-- The three forms of code compute the same slices. -/
theorem value?_expression (within : axis < grid.rank)
    (gathers : arithmetic.Gathers grid axis index result)
    (ofOperand : operand.value? arithmetic environment = some grid.carried)
    (ofPlace : place.value? arithmetic environment = some index.carried) :
    (expression operand place grid.rank index.rank axis).value? arithmetic environment =
      some result.carried := by
  have positive : 0 < grid.rank := Nat.zero_lt_of_lt within
  have rank := rank_gathered within gathers
  rw [Grid.carried_of_pos positive] at ofOperand
  simp only [expression]
  split
  next many =>
    rw [Grid.carried_of_pos (Nat.zero_lt_of_lt many)] at ofPlace
    have ranks : resultRank grid.rank index.rank = grid.rank - 1 + index.rank :=
      Nat.max_eq_left (by omega)
    simp only [Expression.value?, ofOperand, ofPlace, Option.bind_eq_bind, Option.bind_some]
    rw [if_pos ⟨trivial, ranks⟩, (Arithmetic.take?_eq_some within).mpr gathers,
      Grid.carried_of_pos (by omega)]
  next few =>
    rcases exists_selected within (Nat.le_of_not_lt few) gathers
      with ⟨selected, found, shape, elements⟩
    have ofSelect : (Expression.select operand axis place).value? arithmetic environment =
        some selected := by
      simp only [Expression.value?, ofOperand, ofPlace, Option.bind_eq_bind, Option.bind_some,
        found]
    split
    next dropped =>
      rw [Expression.value?, ofSelect, Option.bind_eq_bind, Option.bind_some,
        squeeze?_selected within dropped.2 dropped.1 gathers shape elements,
        Grid.carried_of_pos (by omega)]
    next kept =>
      rw [ofSelect]
      exact congrArg some (Grid.ext
        (shape.trans (shape_selected within (Nat.le_of_not_lt few) kept gathers).symm) elements)

/-! ## Code of nodes -/

variable {setting : Setting} {node : Node} {before : Progress} {data indices output : String}
  {dataRank indexRank : Nat}

/-- The axis that a node lists, the first one by default. -/
def listedAxis (node : Node) : Int64 :=
  ((node.attributes.get? "axis").bind AttributeValue.int?).getD 0

/-- Whether the axis of a node, if there is one, is an integer. -/
def Settled (node : Node) : Prop :=
  ∀ value, node.attributes.get? "axis" = some value → ∃ axis, value.int? = some axis

theorem axis_eq (settled : Settled node) (rank : Nat) :
    Gather.axis node rank =
      match axisPosition? rank (listedAxis node).toInt with
      | some position => .ok position
      | none => .error (.invalidNode node.name (.axisOutOfRange (listedAxis node).toInt rank)) := by
  rw [Gather.axis, listedAxis]
  cases present : node.attributes.get? "axis" with
  | none => rfl
  | some value =>
      rcases settled value present with ⟨axis, int⟩
      cases located : axisPosition? rank axis.toInt <;> simp [int, located]

theorem axisPosition?_of_onRank {rank : Nat} {axis : Int64} (within : OnRank rank axis) :
    axisPosition? rank axis.toInt = some (ReduceSum.axisPlace rank axis).toNat := by
  have ⟨fromEnd, below⟩ := within
  rw [axisPosition?_eq_some, ReduceSum.axisPlace]
  split <;> omega

theorem named_expression (identifier : String → String) (operand place : Expression)
    (dataRank indexRank axis : Nat) :
    setting.named identifier (expression operand place dataRank indexRank axis) =
      expression (setting.named identifier operand) (setting.named identifier place) dataRank
        indexRank axis := by
  simp only [expression]
  split
  · rfl
  · split <;> rfl

/-- Slices of a node fail where its axis does, with the same fault. -/
theorem generate_error_of_axis {fault : NetworkError} (hasData : node.input? 0 = some data)
    (hasIndices : node.input? 1 = some indices)
    (general : setting.embeddings.get? node.name = none)
    (dataRanked : setting.rankOf? before.inferred data = some dataRank)
    (indexRanked : setting.rankOf? before.inferred indices = some indexRank)
    (failed : Gather.axis node dataRank = .error fault) :
    generate setting node before = (.error fault, before) := by
  have dataRun := setting.rank_run data before
  have indexRun := setting.rank_run indices before
  rw [dataRanked] at dataRun
  rw [indexRanked] at indexRun
  rw [generate, hasData, hasIndices]
  simp only [general]
  rw [generateSlices, bind_run, dataRun]
  dsimp only
  rw [bind_run, indexRun, failed]
  rfl

/-- The slices of a node are not generated when its axis is none of its data. Else the code,
read as it stands, binds the output to an expression that computes them, for all data of the
rank and all positions along the axis. Names in use are proper, and stay so. -/
theorem generate_gathers (proper : before.naming.Proper) (hasData : node.input? 0 = some data)
    (hasIndices : node.input? 1 = some indices) (hasOutput : node.output? 0 = some output)
    (general : setting.embeddings.get? node.name = none) (settled : Settled node)
    (numeric : ∀ name ∈ [data, indices], ¬setting.HoldsTexts name)
    (integral : (setting.elementTypeOf? before.inferred indices).any ElementType.isFloat = false)
    (dataRanked : setting.rankOf? before.inferred data = some dataRank)
    (indexRanked : setting.rankOf? before.inferred indices = some indexRank) :
    ((∃ reason after,
        generate setting node before = (.error (.invalidNode node.name reason), after)) ↔
      ¬OnRank dataRank (listedAxis node)) ∧
    (OnRank dataRank (listedAxis node) →
      ∃ code value after, generate setting node before = (.ok code, after) ∧
        after.naming.Proper ∧ code.layer = none ∧
        Source.assignment? code.assignment.code =
          some ⟨after.naming.identifier output, value⟩ ∧
        ∀ {α : Type} (arithmetic : Arithmetic α) (environment : Environment α)
          (tensor index : Grid α),
          let axis := (ReduceSum.axisPlace dataRank (listedAxis node)).toNat
          tensor.rank = dataRank → index.rank = indexRank →
          arithmetic.Within index tensor axis →
          environment.Gives arithmetic setting after.naming (.var data false) tensor.carried →
          environment.Gives arithmetic setting after.naming (.var indices false) index.carried →
          ∃ result, arithmetic.Gathers tensor axis index result ∧
            value.value? arithmetic environment = some result.carried) := by
  by_cases within : OnRank dataRank (listedAxis node)
  · have located := axisPosition?_of_onRank within
    have placed : Gather.axis node dataRank =
        .ok (ReduceSum.axisPlace dataRank (listedAxis node)).toNat := by
      rw [axis_eq settled, located]
    have planned : Planned setting before.inferred node .gather _ :=
      .slices hasData hasIndices general dataRanked indexRanked placed
    have indexed : indexOf setting before.inferred indices = .var indices false := by
      rw [indexOf, integral]
      rfl
    rw [indexed] at planned
    have readable : ∀ name ∈ (expression (.var data false) (.var indices false) dataRank indexRank
        (ReduceSum.axisPlace dataRank (listedAxis node)).toNat).names,
        ¬setting.HoldsTexts name := by
      rw [Expression.names_gather]
      exact numeric
    rcases planned.exists_generate hasOutput readable with ⟨value, after, run, same, named⟩
    constructor
    · refine iff_of_false ?_ (not_not_intro within)
      rintro ⟨reason, final, failed⟩
      cases run.symm.trans failed
    · intro _
      obtain ⟨properAfter, properNames⟩ := named proper
      refine ⟨_, value, after, run, properAfter, rfl, Source.assignment?_code properNames, ?_⟩
      rintro α arithmetic environment tensor index axis rfl rfl positions ofData ofIndices
      have below := (axisPosition?_eq_some.mp located).1
      rcases Arithmetic.exists_gathers below positions with ⟨result, gathers⟩
      refine ⟨result, gathers, ?_⟩
      rw [← Expression.value?_uncloned, same, named_expression]
      exact value?_expression below gathers ofData ofIndices
  · have outside : axisPosition? dataRank (listedAxis node).toInt = none := by
      rw [onRank_iff, ← Option.isSome_iff_exists, Bool.not_eq_true, Option.isSome_eq_false_iff,
        Option.isNone_iff_eq_none] at within
      exact within
    have failed := axis_eq settled dataRank
    rw [outside] at failed
    have run := generate_error_of_axis hasData hasIndices general dataRanked indexRanked failed
    exact ⟨iff_of_true ⟨_, _, run⟩ within, fun onRank => (within onRank).elim⟩

/-- A node that takes columns of a table. -/
def columnsNode (axis : Int64) (indices : String) : Node :=
  ⟨"columns", "Gather", "", ["table", indices], ["columns"], .ofList [("axis", .int axis)]⟩

/-- A graph of a table, and of a scalar and a matrix of its columns. -/
def columns (node : Node) : Setting where
  graph := {
    name := "columns"
    nodes := [node]
    inputs := [
      ⟨"place", some .int64, some []⟩, ⟨"places", some .int64, some [.size 1, .size 2]⟩]
    outputs := [⟨"columns", none, none⟩]
    valueInfos := .ofList [
      ("place", ⟨"place", some .int64, some []⟩),
      ("places", ⟨"places", some .int64, some [.size 1, .size 2]⟩)]
    initializers := .ofList [("table", ⟨.int64, [2, 3], .int64 [1, 2, 3, 4, 5, 6]⟩)]
    opsetVersion := none }
  embeddings := .empty

theorem columns_numeric (node : Node) (name : String) : ¬(columns node).HoldsTexts name := by
  rintro ⟨tensor, found, texts⟩
  have member := Table.mem_of_get?_ofList found
  rw [List.mem_singleton] at member
  cases member
  cases texts

theorem columnsNode_settled (axis : Int64) (indices : String) :
    Settled (columnsNode axis indices) := by
  intro value present
  rw [columnsNode, Table.get?_ofList] at present
  cases present
  exact ⟨axis, rfl⟩

/-- A column is a vector. Columns at a matrix are arranged as the matrix is. There is no axis
before the first one. -/
theorem columns_generated :
    let table : Grid Int := ⟨[2, 3], [1, 2, 3, 4, 5, 6], rfl⟩
    (∃ code value after,
      generate (columns (columnsNode (-1) "place")) (columnsNode (-1) "place") .start =
          (.ok code, after) ∧
        Source.assignment? code.assignment.code =
          some ⟨after.naming.identifier "columns", value⟩ ∧
        value.value? .integers ⟨fun _ => some ⟨[1], [2], rfl⟩, fun _ => some table, fun _ => none⟩ =
          some ⟨[2], [3, 6], rfl⟩) ∧
    (∃ code value after,
      generate (columns (columnsNode 1 "places")) (columnsNode 1 "places") .start =
          (.ok code, after) ∧
        Source.assignment? code.assignment.code =
          some ⟨after.naming.identifier "columns", value⟩ ∧
        value.value? .integers
            ⟨fun _ => some ⟨[1, 2], [0, 2], rfl⟩, fun _ => some table, fun _ => none⟩ =
          some ⟨[2, 1, 2], [1, 3, 4, 6], rfl⟩) ∧
    ∃ reason after,
      generate (columns (columnsNode (-3) "place")) (columnsNode (-3) "place") .start =
        (.error (.invalidNode "columns" reason), after) := by
  intro table
  have hasData (axis indices) : (columnsNode axis indices).input? 0 = some "table" := rfl
  have hasPlace (axis) : (columnsNode axis "place").input? 1 = some "place" := rfl
  have hasPlaces (axis) : (columnsNode axis "places").input? 1 = some "places" := rfl
  have hasOutput (axis indices) : (columnsNode axis indices).output? 0 = some "columns" := rfl
  have general (node) : (columns node).embeddings.get? node.name = none := rfl
  have tableRank (node) : (columns node).rankOf? Progress.start.inferred "table" = some 2 := rfl
  have placeRank (node) : (columns node).rankOf? Progress.start.inferred "place" = some 0 := rfl
  have placesRank (node) : (columns node).rankOf? Progress.start.inferred "places" = some 2 := rfl
  have numeric (node) (names : List String) : ∀ name ∈ names, ¬(columns node).HoldsTexts name :=
    fun name _ => columns_numeric node name
  have picks := generate_gathers Naming.proper_empty (hasData (-1) _) (hasPlace _)
    (hasOutput _ _) (general _) (columnsNode_settled _ _) (numeric _ _) rfl
    (tableRank _) (placeRank _)
  have takes := generate_gathers Naming.proper_empty (hasData 1 _) (hasPlaces _)
    (hasOutput _ _) (general _) (columnsNode_settled _ _) (numeric _ _) rfl
    (tableRank _) (placesRank _)
  have outside := generate_gathers Naming.proper_empty (hasData (-3) _) (hasPlace _)
    (hasOutput _ _) (general _) (columnsNode_settled _ _) (numeric _ _) rfl
    (tableRank _) (placeRank _)
  refine ⟨?_, ?_, outside.1.mpr (by decide)⟩
  · rcases picks.2 (by decide) with ⟨code, value, after, run, _, _, read, computes⟩
    rcases computes .integers ⟨fun _ => some ⟨[1], [2], rfl⟩, fun _ => some table, fun _ => none⟩
      table ⟨[], [2], rfl⟩ rfl rfl (by decide) rfl rfl with ⟨result, gathers, computed⟩
    obtain rfl : result = ⟨[2], [3, 6], rfl⟩ :=
      gathers.unique (by decide) ((Arithmetic.gather?_eq_some (by decide)).mp rfl)
    exact ⟨code, value, after, run, read, computed⟩
  · rcases takes.2 (by decide) with ⟨code, value, after, run, _, _, read, computes⟩
    rcases computes .integers
      ⟨fun _ => some ⟨[1, 2], [0, 2], rfl⟩, fun _ => some table, fun _ => none⟩
      table ⟨[1, 2], [0, 2], rfl⟩ rfl rfl (by decide) rfl rfl with ⟨result, gathers, computed⟩
    obtain rfl : result = ⟨[2, 1, 2], [1, 3, 4, 6], rfl⟩ :=
      gathers.unique (by decide) ((Arithmetic.gather?_eq_some (by decide)).mp rfl)
    exact ⟨code, value, after, run, read, computed⟩

end Gather

end Network

end OnnxForge

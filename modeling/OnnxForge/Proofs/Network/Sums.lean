import Mathlib.Algebra.BigOperators.Group.Finset.Piecewise
import OnnxForge.Proofs.Network.Code.Expressions
import OnnxForge.Proofs.Network.Typing
import OnnxForge.Proofs.Outcomes
import OnnxForge.Proofs.Network.Values

/-!
# Sums along axes

The elements of a tensor fall into classes of cells that agree along all axes but the given
ones. Code sums along one axis after the other, and each time joins the classes that differ
along that axis only. Where its axes are told apart and lie in the tensor, it computes the sums
that its node stands for.
-/

namespace OnnxForge

/-! ## Sums of classes -/

section Classes

variable {α β : Type} [AddCommMonoid α] {items : List β} {value : β → α}

theorem sum_filter_cons (keep : β → Bool) (value : β → α) (item : β) (rest : List β) :
    (((item :: rest).filter keep).map value).sum =
      (if keep item then value item else 0) + ((rest.filter keep).map value).sum := by
  by_cases kept : keep item <;> simp [kept]

/-- Sums over classes add up to the sum of all items that are in one. -/
theorem sum_sum_filter {count : Nat} {isIn : Nat → β → Bool} {isKept : β → Bool}
    (place? : β → Option Nat)
    (isIn_iff : ∀ item ∈ items, ∀ index < count,
      isIn index item = true ↔ isKept item = true ∧ place? item = some index)
    (within : ∀ item ∈ items, ∃ index < count, place? item = some index) :
    ((List.range count).map fun index => ((items.filter (isIn index)).map value).sum).sum =
      ((items.filter isKept).map value).sum := by
  induction items with
  | nil => simp
  | cons item rest ih =>
      have ⟨isInHere, isInRest⟩ := List.forall_mem_cons.mp isIn_iff
      have ⟨⟨place, below, placed⟩, withinRest⟩ := List.forall_mem_cons.mp within
      have once :
          ((List.range count).map fun index => if isIn index item then value item else 0).sum =
            if isKept item then value item else 0 := by
        have same : ∀ index ∈ Finset.range count, (if isIn index item then value item else 0) =
            if place = index then (if isKept item then value item else 0) else 0 := by
          intro index member
          have iff := isInHere index (Finset.mem_range.mp member)
          by_cases isHere : place = index <;> simp [iff, placed, isHere]
        change (∑ index ∈ Finset.range count, if isIn index item then value item else 0) = _
        rw [Finset.sum_congr rfl same, Finset.sum_ite_eq, if_pos (Finset.mem_range.mpr below)]
      simp only [sum_filter_cons, List.sum_map_add, once, ih isInRest withinRest]

/-- What stands by one of several distinct keys is all that its class has. -/
theorem sum_filter_of_mem {entries : List (β × α)} [DecidableEq β]
    (distinct : (entries.map (·.1)).Nodup) {entry : β × α} (member : entry ∈ entries) :
    ((entries.filter fun other => other.1 = entry.1).map (·.2)).sum = entry.2 := by
  induction entries with
  | nil => cases member
  | cons first rest ih =>
      have ⟨apart, distinctRest⟩ := List.nodup_cons.mp distinct
      rcases List.mem_cons.mp member with rfl | later
      · have alone : rest.filter (fun other => other.1 = entry.1) = [] := by
          refine List.filter_eq_nil_iff.mpr fun other present => ?_
          have among : other.1 ∈ rest.map (·.1) := List.mem_map_of_mem present
          simpa using ne_of_mem_of_not_mem among apart
        rw [List.filter_cons_of_pos (by simp), alone, List.map_singleton, List.sum_singleton]
      · have among : entry.1 ∈ rest.map (·.1) := List.mem_map_of_mem later
        have different : first.1 ≠ entry.1 := (ne_of_mem_of_not_mem among apart).symm
        rw [List.filter_cons_of_neg (by simpa using different), ih distinctRest later]

end Classes

/-! ## Sums of grids -/

/-- A list in which an entry was set is told by the others and that one. -/
theorem eq_set_iff {α : Type} {first second : List α} {index : Nat} {old new : α}
    (oldAt : second[index]? = some old) :
    first = second.set index new ↔ first.set index old = second ∧ first[index]? = some new := by
  have ⟨within, present⟩ := List.getElem?_eq_some_iff.mp oldAt
  subst present
  constructor
  · rintro rfl
    exact ⟨by rw [List.set_set, List.set_getElem_self], List.getElem?_set_self within⟩
  · rintro ⟨rest, newAt⟩
    have ⟨_, value⟩ := List.getElem?_eq_some_iff.mp newAt
    rw [← rest, List.set_set, ← value, List.set_getElem_self]

namespace Grid

section Sums

variable {α : Type} [AddCommMonoid α] {grid : Grid α} {axes : List Nat} {axis : Nat}

/-- The sum of the elements in some of the cells. -/
def sumWhere (grid : Grid α) (isIn : List Nat → Bool) : α :=
  ((grid.entries.filter fun entry => isIn entry.1).map (·.2)).sum

/-- The sums of all elements in cells that agree along the other axes. The given axes stay with
one position, or are dropped. -/
def sumOver (grid : Grid α) (axes : List Nat) (keeps : Bool) : Grid α :=
  let unit? (unit : Nat) := if keeps then some unit else none
  ofCells (collapse axes (unit? 1) 0 grid.shape) fun cell =>
    grid.sumWhere fun source => collapse axes (unit? 0) 0 source = cell

theorem sumOver_true (grid : Grid α) (axes : List Nat) :
    grid.sumOver axes true =
      ofCells (collapse axes (some 1) 0 grid.shape) fun cell =>
        grid.sumWhere fun source => collapse axes (some 0) 0 source = cell :=
  rfl

theorem sumOver_false (grid : Grid α) (axes : List Nat) :
    grid.sumOver axes false =
      ofCells (collapse axes none 0 grid.shape) fun cell =>
        grid.sumWhere fun source => collapse axes none 0 source = cell :=
  rfl

theorem sumWhere_congr {first second : List Nat → Bool}
    (same : ∀ cell ∈ cells grid.shape, first cell = second cell) :
    grid.sumWhere first = grid.sumWhere second := by
  rw [sumWhere, sumWhere,
    List.filter_congr fun entry member => same entry.1 (mem_cells_of_mem_entries member)]

theorem sumWhere_true (grid : Grid α) : grid.sumWhere (fun _ => true) = grid.elements.sum := by
  rw [sumWhere, List.filter_eq_self.mpr fun _ _ => rfl, map_snd_entries]

/-- It only counts which axes are among those of the grid. -/
theorem sumOver_congr {others : List Nat} {keeps : Bool}
    (same : ∀ axis < grid.rank, axis ∈ axes ↔ axis ∈ others) :
    grid.sumOver axes keeps = grid.sumOver others keeps := by
  have alike : ∀ unit, ∀ entries : List Nat, entries.length = grid.rank →
      collapse axes unit 0 entries = collapse others unit 0 entries := by
    intro unit entries length
    refine collapse_congr fun axis _ below => same axis ?_
    rwa [Nat.zero_add, length] at below
  rw [sumOver, sumOver, alike _ _ rfl]
  refine ofCells_congr fun cell _ => sumWhere_congr fun source member => ?_
  rw [alike _ _ (length_of_mem_cells member)]

/-- Without axes nothing is summed. -/
theorem sumOver_nil (grid : Grid α) : grid.sumOver [] true = grid := by
  refine Grid.ext (collapse_nil _) ?_
  change (cells (collapse [] (some 1) 0 grid.shape)).map _ = _
  rw [collapse_nil, ← map_fst_entries, List.map_map, ← map_snd_entries]
  refine List.map_congr_left fun entry member => ?_
  simp only [Function.comp_apply, if_true, collapse_nil]
  exact sum_filter_of_mem (grid.map_fst_entries ▸ nodup_cells grid.shape) member

/-- The sums along an axis of sums along others are sums along one more. -/
theorem sumAlong?_sumOver (arithmetic : Network.Arithmetic α) (adds : arithmetic.sum = List.sum)
    (within : axis < grid.rank) :
    arithmetic.sumAlong? (grid.sumOver axes true) axis =
      some (grid.sumOver (axis :: axes) true) := by
  obtain ⟨size, sizeAt⟩ : ∃ size, (collapse axes (some 1) 0 grid.shape)[axis]? = some size := by
    rw [getElem?_collapse, List.getElem?_eq_getElem within]
    exact ⟨_, rfl⟩
  have known : (grid.sumOver axes true).shape[axis]? = some size := sizeAt
  rw [Network.Arithmetic.sumAlong?, known, Option.map_some, adds, Option.some.injEq,
    sumOver_true grid (axis :: axes), collapse_cons]
  refine ofCells_congr fun cell member => ?_
  have found : ∀ coordinate ∈ List.range size,
      (grid.sumOver axes true).at? (cell.set axis coordinate) = some (grid.sumWhere fun source =>
        collapse axes (some 0) 0 source = cell.set axis coordinate) := fun coordinate below =>
    at?_ofCells _ (set_mem_cells member sizeAt (List.mem_range.mp below))
  rw [List.filterMap_congr found, ← Function.comp_def, List.filterMap_eq_map]
  have zeroAt : cell[axis]? = some 0 := by
    have single := List.getElem?_set_self (a := 1) (List.getElem?_eq_some_iff.mp known).1
    rcases exists_coordinate member single with ⟨coordinate, below, coordinateAt⟩
    rwa [Nat.lt_one_iff.mp below] at coordinateAt
  refine sum_sum_filter (fun entry => (collapse axes (some 0) 0 entry.1)[axis]?) ?_ ?_
  · intro entry present coordinate _
    simp only [decide_eq_true_eq, collapse_cons]
    exact eq_set_iff zeroAt
  · intro entry present
    have source : collapse axes (some 0) 0 entry.1 ∈ cells (collapse axes (some 1) 0 grid.shape) :=
      mem_cells_collapse (mem_cells_of_mem_entries present)
    exact exists_coordinate source sizeAt

/-- Axes of one position are dropped from sums that keep them. -/
theorem squeeze?_sumOver (distinct : axes.Nodup) (within : ∀ axis ∈ axes, axis < grid.rank)
    (fewer : axes.length < grid.rank) :
    Network.squeeze? (grid.sumOver axes true) (grid.rank - axes.length) axes =
      some (grid.sumOver axes false) := by
  have rank : (grid.sumOver axes true).rank = grid.rank := length_collapse _
  have single : ∀ axis ∈ axes, (grid.sumOver axes true).shape[axis]? = some 1 := by
    intro axis member
    change (collapse axes (some 1) 0 grid.shape)[axis]? = some 1
    rw [getElem?_collapse, List.getElem?_eq_getElem (within axis member), Nat.zero_add,
      Option.map_some, if_pos member]
  rw [Network.squeeze?, if_pos ⟨distinct, single, by rw [rank], Nat.sub_pos_of_lt fewer⟩]
  refine reshape?_eq_some.mpr ⟨(collapse_collapse _).symm, ?_⟩
  rw [sumOver_false, sumOver_true]
  change (cells (collapse axes none 0 grid.shape)).map _ =
    (cells (collapse axes (some 1) 0 grid.shape)).map _
  rw [cells_collapse, List.map_map]
  refine List.map_congr_left fun cell member => ?_
  rw [Function.comp_apply]
  refine sumWhere_congr fun source isSource => ?_
  exact decide_eq_decide.mpr (collapse_eq_iff member (length_of_mem_cells isSource)).symm

/-- The sum over all axes, when they are dropped, is that of all elements. -/
theorem carried_sumOver_false (all : ∀ axis < grid.rank, axis ∈ axes) :
    (grid.sumOver axes false).carried = ⟨[1], [grid.elements.sum], rfl⟩ := by
  have dropped : ∀ entries : List Nat, entries.length = grid.rank →
      collapse axes none 0 entries = [] := by
    intro entries length
    refine collapse_none_eq_nil_iff.mpr fun axis _ below => all axis ?_
    rwa [Nat.zero_add, length] at below
  have shape : (grid.sumOver axes false).shape = [] := dropped _ rfl
  refine Grid.ext (if_pos shape) ?_
  change (cells (collapse axes none 0 grid.shape)).map _ = _
  rw [dropped _ rfl, ← sumWhere_true]
  refine congrArg (fun sum => [sum]) (sumWhere_congr fun source isSource => ?_)
  exact decide_eq_true (dropped _ (length_of_mem_cells isSource))

/-- Some axis is left when fewer are dropped. -/
theorem rank_sumOver_false_pos (fewer : axes.length < grid.rank) :
    0 < (grid.sumOver axes false).rank := by
  refine List.length_pos_iff.mpr fun none => Nat.not_le_of_lt fewer ?_
  have all := collapse_none_eq_nil_iff.mp none
  have subset : List.range grid.rank ⊆ axes := fun axis member =>
    all axis (Nat.zero_le _) (by rw [Nat.zero_add]; exact List.mem_range.mp member)
  simpa using (List.nodup_range.subperm subset).length_le

end Sums

end Grid

/-! ## Reductions -/

namespace Network

open Attempt

namespace ReduceSum

variable {α : Type} [AddCommMonoid α] {arithmetic : Arithmetic α} {environment : Environment α}
  {operand : Expression} {grid : Grid α}

/-- What a reduction makes of a grid. -/
def Reduction.applied (grid : Grid α) : Reduction → Grid α
  | identity => grid
  | total => grid.sumOver (List.range grid.rank) false
  | kept axes => grid.sumOver axes true
  | dropped axes _ => grid.sumOver axes false

theorem value?_sumsAlong {axes done : List Nat} (adds : arithmetic.sum = List.sum)
    (within : ∀ axis ∈ axes, axis < grid.rank)
    (ofOperand : operand.value? arithmetic environment = some (grid.sumOver done true)) :
    (Reduction.sumsAlong axes operand).value? arithmetic environment =
      some (grid.sumOver (axes.reverse ++ done) true) := by
  induction axes generalizing operand done with
  | nil => exact ofOperand
  | cons axis rest ih =>
      have ⟨first, others⟩ := List.forall_mem_cons.mp within
      rw [List.reverse_cons, List.append_assoc, List.singleton_append]
      refine ih others ?_
      rw [Expression.value?, ofOperand]
      exact Grid.sumAlong?_sumOver arithmetic adds first

/-- The sums along axes, one after the other. -/
theorem value?_sumsAlong_carried {axes : List Nat} (adds : arithmetic.sum = List.sum)
    (within : ∀ axis ∈ axes, axis < grid.rank)
    (ofOperand : operand.value? arithmetic environment = some grid.carried) :
    (Reduction.sumsAlong axes operand).value? arithmetic environment =
      some (grid.sumOver axes true).carried := by
  have rank : (grid.sumOver axes true).rank = grid.rank := length_collapse _
  rcases Nat.eq_zero_or_pos grid.rank with scalar | positive
  · obtain rfl : axes = [] := by
      refine List.eq_nil_iff_forall_not_mem.mpr fun axis member => ?_
      have below := within axis member
      rw [scalar] at below
      exact Nat.not_lt_zero axis below
    rw [Grid.sumOver_nil]
    exact ofOperand
  · rw [Grid.carried_of_pos positive, ← grid.sumOver_nil] at ofOperand
    rw [value?_sumsAlong adds within ofOperand, Grid.carried_of_pos (rank ▸ positive)]
    exact congrArg some (Grid.sumOver_congr fun axis _ => by simp)

/-- A reduction that fits its data has the value that it should. -/
theorem value?_reduction {reduction : Reduction} (adds : arithmetic.sum = List.sum)
    (fits : reduction.Fits grid.rank)
    (ofOperand : operand.value? arithmetic environment = some grid.carried) :
    (reduction.expression operand).value? arithmetic environment =
      some (reduction.applied grid).carried := by
  cases reduction with
  | identity => exact ofOperand
  | total =>
      have all : ∀ axis < grid.rank, axis ∈ List.range grid.rank :=
        fun axis below => List.mem_range.mpr below
      rw [Reduction.expression, Expression.value?, ofOperand, Option.map_some, Reduction.applied,
        Grid.carried_sumOver_false all, Arithmetic.total, adds]
      rfl
  | kept axes => exact value?_sumsAlong_carried adds fits ofOperand
  | dropped axes whole =>
      rcases fits with ⟨rfl, distinct, within, fewer⟩
      have rank : (grid.sumOver axes true).rank = grid.rank := length_collapse _
      have positive : 0 < (grid.sumOver axes true).rank := by omega
      rw [Reduction.expression, Expression.value?, value?_sumsAlong_carried adds within ofOperand,
        Grid.carried_of_pos positive]
      refine (Grid.squeeze?_sumOver distinct within fewer).trans ?_
      rw [Reduction.applied, Grid.carried_of_pos (Grid.rank_sumOver_false_pos fewer)]

/-! ## Requests of nodes -/

variable {setting : Setting} {node : Node} {before : Progress} {data output : String} {rank : Nat}

/-- Whether the axes of a node, if there are any, are integers known in advance. -/
structure Settled (setting : Setting) (node : Node) : Prop where
  ofAttribute : ∀ value, node.attributes.get? "axes" = some value →
    ∃ axes, value.ints? = some axes
  ofInput : ∀ name, node.input? 1 = some name →
    ∃ tensor axes, setting.initializer? name = some tensor ∧ tensor.integers = .ok axes

/-- The axes that a node lists, in its attribute or else in its input. -/
def listedAxes (setting : Setting) (node : Node) : List Int64 :=
  match node.attributes.get? "axes" with
  | some value => value.ints?.getD []
  | none =>
    ((node.input? 1).bind setting.initializer?).elim [] fun tensor =>
      tensor.integers.toOption.getD []

/-- The request of a node whose axes are known. -/
def settledRequest (setting : Setting) (node : Node) : Request where
  axes := listedAxes setting node
  keepsAxes := flag node "keepdims" true
  emptyMeansNone := flag node "noop_with_empty_axes" false

theorem Settled.request_eq (settled : Settled setting node) :
    request setting node = .ok (settledRequest setting node) := by
  have fromInput : ∃ axes?, inputAxes setting node = .ok axes? ∧
      axes?.getD [] = ((node.input? 1).bind setting.initializer?).elim [] fun tensor =>
        tensor.integers.toOption.getD [] := by
    rw [inputAxes]
    cases present : node.input? 1 with
    | none => exact ⟨none, rfl, rfl⟩
    | some name =>
        rcases settled.ofInput name present with ⟨tensor, axes, found, listed⟩
        simp only [found, listed, Option.bind_some, Option.elim_some]
        exact ⟨some axes, rfl, rfl⟩
  rcases fromInput with ⟨axes?, ofInput, listed⟩
  rw [request, attributeAxes, ofInput, settledRequest, listedAxes]
  cases present : node.attributes.get? "axes" with
  | none =>
      rw [← listed]
      rfl
  | some value =>
      rcases settled.ofAttribute value present with ⟨axes, ints⟩
      simp only [ints]
      rfl

/-- The axes of a tensor that a node sums along: the listed ones, or all if there are none. -/
def summedAxes (listed : List Int64) (rank : Nat) : List Nat :=
  if listed.isEmpty then List.range rank
  else (List.range rank).filter fun axis : Nat => (listed.map (axisPlace rank)).contains axis

/-- The sum that a node stands for. -/
def summed (setting : Setting) (node : Node) (grid : Grid α) : Grid α :=
  let listed := listedAxes setting node
  if listed.isEmpty ∧ flag node "noop_with_empty_axes" false then grid
  else grid.sumOver (summedAxes listed grid.rank) (flag node "keepdims" true)

theorem mem_summedAxes_iff {listed : List Int64} {places : List Nat}
    (listsSome : ¬listed.isEmpty) (found : positions node data (some rank) listed = .ok places)
    (axis : Nat) (within : axis < rank) :
    axis ∈ places ↔ axis ∈ summedAxes listed rank := by
  have ⟨_, places_iff, _⟩ := positions_eq_ok found
  rw [places_iff, summedAxes, if_neg listsSome, List.mem_filter, List.mem_range,
    List.contains_iff_mem, List.mem_map, and_iff_right within]
  refine exists_congr fun given => and_congr_right fun _ => ?_
  rw [axisPosition?_eq_some, and_iff_right within, axisPlace, eq_comm]

/-- A sum along axes that are no fewer than those of the rank is that along all of them. -/
theorem mem_places_of_length {places : List Nat} (distinct : places.Nodup)
    (within : ∀ place ∈ places, place < rank) (many : rank = places.length) (axis : Nat)
    (below : axis < rank) :
    axis ∈ places := by
  have subset : places ⊆ List.range rank := fun place member =>
    List.mem_range.mpr (within place member)
  have all := (distinct.subperm subset).perm_of_length_le (by simp [many])
  exact all.mem_iff.mpr (List.mem_range.mpr below)

/-- What a request becomes for a tensor whose rank is known. -/
theorem reduction_known (request : Request) :
    ReduceSum.reduction node data (some rank) request =
      if request.axes.isEmpty then
        .ok (if request.emptyMeansNone then .identity
          else if request.keepsAxes then .kept (List.range rank) else .total)
      else
        (fun places =>
          if request.keepsAxes then .kept places
          else if rank = places.length then .total else .dropped places rank) <$>
          positions node data (some rank) request.axes := by
  rw [ReduceSum.reduction]
  cases request.axes.isEmpty with
  | true => cases request.emptyMeansNone <;> cases request.keepsAxes <;> rfl
  | false =>
      cases positions node data (some rank) request.axes with
      | error fault => rfl
      | ok places =>
          change reductionAlong data (some rank) request.keepsAxes places = _
          cases request.keepsAxes <;> rfl

/-- Whether they are found as a sum along some axes or along all. -/
theorem applied_places {places : List Nat} {keeps : Bool} {axes : List Nat}
    (distinct : places.Nodup) (within : ∀ place ∈ places, place < grid.rank)
    (same : ∀ axis < grid.rank, axis ∈ places ↔ axis ∈ axes) :
    (if keeps then .kept places
      else if grid.rank = places.length then .total
      else .dropped places grid.rank : Reduction).applied grid = grid.sumOver axes keeps := by
  cases keeps with
  | true => exact Grid.sumOver_congr same
  | false =>
      rw [if_neg Bool.false_ne_true]
      split
      next whole =>
        refine Grid.sumOver_congr fun axis below => ?_
        rw [← same axis below]
        exact iff_of_true (List.mem_range.mpr below)
          (mem_places_of_length distinct within whole axis below)
      next => exact Grid.sumOver_congr same

/-- A reduction that is found for a node makes of a tensor what the node stands for. -/
theorem applied_eq_summed {reduction : Reduction}
    (found : ReduceSum.reduction node data (some grid.rank) (settledRequest setting node) =
      .ok reduction) :
    reduction.applied grid = summed setting node grid := by
  rw [reduction_known] at found
  rw [summed]
  by_cases unlisted : (settledRequest setting node).axes.isEmpty
  · rw [if_pos unlisted] at found
    cases found
    change (listedAxes setting node).isEmpty at unlisted
    by_cases noop : flag node "noop_with_empty_axes" false <;>
      by_cases keeps : flag node "keepdims" true <;>
      simp [settledRequest, summedAxes, Reduction.applied, unlisted, noop, keeps]
  · rw [if_neg unlisted] at found
    cases located : positions node data (some grid.rank) (settledRequest setting node).axes with
    | error fault =>
        rw [located] at found
        cases found
    | ok places =>
        rw [located] at found
        cases found
        have ⟨increasing, places_iff, _⟩ := positions_eq_ok located
        have within : ∀ place ∈ places, place < grid.rank := by
          intro place member
          rcases (places_iff place).mp member with ⟨axis, _, present⟩
          exact (axisPosition?_eq_some.mp present).1
        rw [if_neg fun noop => unlisted noop.1]
        exact applied_places (increasing.imp fun before => Nat.ne_of_lt before) within
          (mem_summedAxes_iff unlisted located)

/-- The faults of reductions of tensors whose rank is known. -/
theorem exists_axis_of_error {request : Request} {fault : NetworkError}
    (failed : ReduceSum.reduction node data (some rank) request = .error fault) :
    (∃ axis ∈ request.axes, ¬OnRank rank axis) ∧
      ∃ reason, fault = .invalidNode node.name reason := by
  rw [reduction_known] at failed
  split at failed
  next => cases failed
  next =>
    rw [positions] at failed
    cases located : request.axes.mapM fun axis => position node data (some rank) axis.toInt with
    | ok places =>
        rw [located] at failed
        cases failed
    | error found =>
        rw [located] at failed
        cases failed
        rcases exists_of_mapM_eq_error located with ⟨axis, member, outside⟩
        rw [position] at outside
        cases placed : axisPosition? rank axis.toInt with
        | some place =>
            rw [placed] at outside
            cases outside
        | none =>
            rw [placed] at outside
            cases outside
            refine ⟨⟨axis, member, fun within => ?_⟩, _, rfl⟩
            rcases onRank_iff.mp within with ⟨place, present⟩
            cases placed.symm.trans present

theorem onRank_of_reduction {request : Request} {reduction : Reduction}
    (found : ReduceSum.reduction node data (some rank) request = .ok reduction) :
    ∀ axis ∈ request.axes, OnRank rank axis := by
  rw [reduction_known] at found
  split at found
  next none =>
    rw [List.isEmpty_iff.mp none]
    exact List.forall_mem_nil _
  next =>
    cases located : positions node data (some rank) request.axes with
    | error fault =>
        rw [located] at found
        cases found
    | ok places =>
        have ⟨_, _, each⟩ := positions_eq_ok located
        exact fun axis member => onRank_iff.mpr (each axis member)

/-! ## Code of nodes -/

theorem named_sumsAlong (identifier : String → String) (axes : List Nat) (operand : Expression) :
    setting.named identifier (Reduction.sumsAlong axes operand) =
      Reduction.sumsAlong axes (setting.named identifier operand) := by
  induction axes generalizing operand with
  | nil => rfl
  | cons axis rest ih => exact ih (operand.sumAlong axis)

theorem named_reduction (identifier : String → String) (reduction : Reduction)
    (operand : Expression) :
    setting.named identifier (reduction.expression operand) =
      reduction.expression (setting.named identifier operand) := by
  cases reduction with
  | identity => rfl
  | total => rfl
  | kept axes => exact named_sumsAlong identifier axes operand
  | dropped axes rank =>
      exact congrArg (Expression.squeeze · _ axes) (named_sumsAlong identifier axes operand)

/-- The sum of a node fails where its reduction does, with the same fault. -/
theorem generate_error_of_reduction {fault : NetworkError}
    (hasData : node.input? 0 = some data) (hasOutput : node.output? 0 = some output)
    (settled : Settled setting node) (numeric : ¬setting.HoldsTexts data)
    (failed : ReduceSum.reduction node data (setting.rankOf? before.inferred data)
      (settledRequest setting node) = .error fault) :
    ∃ after, generate setting node before = (.error fault, after) := by
  rcases setting.exists_read node.name before numeric with ⟨operand, between, read⟩
  have run : generate setting node before =
      (.error fault, { between with naming := (between.naming.tensor output).2 }) := by
    rw [generate, hasData]
    dsimp only
    rw [settled.request_eq, lift_ok_bind_run, bind_run, Setting.rank?_run]
    dsimp only
    rw [bind_run, read]
    dsimp only
    rw [outputName, hasOutput]
    dsimp only
    rw [bind_run]
    change (setting.elementType? data >>= _) { between with naming := _ } = _
    rw [bind_run, Setting.elementType?_run, failed]
    rfl
  exact ⟨_, run⟩

/-- The sum of a node of a tensor is not generated when some axis is none of the tensor. Else
the code, read as it stands, binds the output to an expression that has the value that the node
stands for, on all tensors of the rank. Names in use are proper, and stay so. -/
theorem generate_sum (proper : before.naming.Proper) (hasData : node.input? 0 = some data)
    (hasOutput : node.output? 0 = some output) (settled : Settled setting node)
    (numeric : ¬setting.HoldsTexts data)
    (ranked : setting.rankOf? before.inferred data = some rank) :
    ((∃ reason after,
        generate setting node before = (.error (.invalidNode node.name reason), after)) ↔
      ∃ axis ∈ listedAxes setting node, ¬OnRank rank axis) ∧
    ((∀ axis ∈ listedAxes setting node, OnRank rank axis) →
      ∃ code value after, generate setting node before = (.ok code, after) ∧
        after.naming.Proper ∧ code.layer = none ∧
        Source.assignment? code.assignment.code =
          some ⟨after.naming.identifier output, value⟩ ∧
        ∀ {α : Type} [AddCommMonoid α] (arithmetic : Arithmetic α)
          (environment : Environment α) (tensor : Grid α),
          arithmetic.sum = List.sum → tensor.rank = rank →
          environment.Gives arithmetic setting after.naming (.var data false) tensor.carried →
          value.value? arithmetic environment = some (summed setting node tensor).carried) := by
  have asked := settled.request_eq
  cases reduced : ReduceSum.reduction node data (some rank) (settledRequest setting node) with
  | error fault =>
      rcases exists_axis_of_error reduced with ⟨⟨axis, member, outside⟩, reason, rfl⟩
      rw [← ranked] at reduced
      rcases generate_error_of_reduction hasData hasOutput settled numeric reduced with ⟨after, run⟩
      exact ⟨iff_of_true ⟨reason, after, run⟩ ⟨axis, member, outside⟩,
        fun within => (outside (within axis member)).elim⟩
  | ok reduction =>
      have within := onRank_of_reduction reduced
      have planned : Planned setting before.inferred node .reduceSum _ :=
        .sums hasData asked (ranked ▸ reduced)
      have readable : ∀ name ∈ (reduction.expression (.var data false)).names,
          ¬setting.HoldsTexts name := by
        simpa using numeric
      rcases planned.exists_generate hasOutput readable with ⟨value, after, run, same, named⟩
      constructor
      · refine iff_of_false ?_ ?_
        · rintro ⟨reason, final, failed⟩
          cases run.symm.trans failed
        · rintro ⟨axis, member, outside⟩
          exact outside (within axis member)
      · intro _
        have ⟨properAfter, properNames⟩ := named proper
        refine ⟨_, value, after, run, properAfter, rfl, Source.assignment?_code properNames, ?_⟩
        rintro α _ arithmetic environment tensor adds rfl given
        rw [← Expression.value?_uncloned, same, named_reduction,
          value?_reduction adds (reduction_fits reduced) given, applied_eq_summed reduced]

/-- A node that sums a tensor along axes, and drops them. Its input lists another axis, which
does not count. -/
def totalsNode (axes : List Int64) : Node :=
  ⟨"total", "ReduceSum", "", ["counts", "axes"], ["totals"],
    .ofList [("axes", .ints axes), ("keepdims", .int 0)]⟩

/-- A graph of such a node for a tensor of rank three. -/
def totals (axes : List Int64) : Setting where
  graph := {
    name := "totals"
    nodes := [totalsNode axes]
    inputs := [⟨"counts", some .int64, some [.size 2, .size 2, .size 2]⟩]
    outputs := [⟨"totals", none, none⟩]
    valueInfos := .ofList [
      ("counts", ⟨"counts", some .int64, some [.size 2, .size 2, .size 2]⟩)]
    initializers := .ofList [("axes", ⟨.int64, [1], .int64 [1]⟩)]
    opsetVersion := none }
  embeddings := .empty

theorem totals_settled (axes : List Int64) : Settled (totals axes) (totalsNode axes) where
  ofAttribute value present := by
    rw [totalsNode, Table.get?_ofList] at present
    cases present
    exact ⟨axes, rfl⟩
  ofInput name present := by
    cases present
    exact ⟨⟨.int64, [1], .int64 [1]⟩, [1], rfl, rfl⟩

/-- The last axis may be listed first, and again; one before the first may not be listed. -/
theorem totals_generated :
    (∃ code value after,
      generate (totals [-1, 0, -1]) (totalsNode [-1, 0, -1]) .start = (.ok code, after) ∧
        Source.assignment? code.assignment.code =
          some ⟨after.naming.identifier "totals", value⟩ ∧
        value.value? .integers
            ⟨fun _ => some ⟨[2, 2, 2], [1, 2, 3, 4, 5, 6, 7, 8], rfl⟩, fun _ => none,
              fun _ => none⟩ =
          some ⟨[2], [14, 22], rfl⟩) ∧
      ∃ reason after, generate (totals [0, -4]) (totalsNode [0, -4]) .start =
        (.error (.invalidNode "total" reason), after) := by
  have hasData (axes) : (totalsNode axes).input? 0 = some "counts" := rfl
  have hasOutput (axes) : (totalsNode axes).output? 0 = some "totals" := rfl
  have ranked (axes) : (totals axes).rankOf? Progress.start.inferred "counts" = some 3 := rfl
  have numeric (axes) : ¬(totals axes).HoldsTexts "counts" := by
    rintro ⟨tensor, found, _⟩
    cases found
  have sums := generate_sum Naming.proper_empty (hasData _) (hasOutput _)
    (totals_settled [-1, 0, -1]) (numeric _) (ranked _)
  have outside := generate_sum Naming.proper_empty (hasData _) (hasOutput _)
    (totals_settled [0, -4]) (numeric _) (ranked _)
  have within : ∀ axis ∈ listedAxes (totals [-1, 0, -1]) (totalsNode [-1, 0, -1]), OnRank 3 axis :=
    List.forall_mem_cons.mpr ⟨by decide, List.forall_mem_cons.mpr ⟨by decide,
      List.forall_mem_singleton.mpr (by decide)⟩⟩
  rcases sums.2 within with ⟨code, value, after, run, _, _, read, computes⟩
  refine ⟨⟨code, value, after, run, read, ?_⟩, outside.1.mpr ⟨-4, by decide, by decide⟩⟩
  exact computes .integers ⟨_, _, _⟩ ⟨[2, 2, 2], [1, 2, 3, 4, 5, 6, 7, 8], rfl⟩ rfl rfl rfl

end ReduceSum

end Network

end OnnxForge

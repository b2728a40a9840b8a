import Mathlib.Data.List.Forall2
import Mathlib.Data.List.Nodup
import Mathlib.Data.List.Perm.Subperm
import Mathlib.Data.List.Range
import OnnxForge.Network.Gather
import OnnxForge.Network.ReduceSum
import OnnxForge.Proofs.Repetitions

/-!
# Axes of tensors

An axis that is found is one of its tensor. The axes of a sum are found increasing and
without repetition, so a sum that drops axes leaves the others.
-/

namespace OnnxForge.Network

open Attempt

/-! ## Single axes -/

theorem axisPosition?_eq_some {rank position : Nat} {axis : Int} :
    axisPosition? rank axis = some position ↔
      position < rank ∧ (position : Int) = if axis < 0 then rank + axis else axis := by
  rw [axisPosition?]
  generalize (if axis < 0 then (rank : Int) + axis else axis) = place
  split
  next within =>
    rw [Option.some.injEq]
    omega
  next outside =>
    constructor
    · intro found
      cases found
    · omega

/-- Whether an axis is one of a tensor of that rank, counted from its beginning or its end. -/
def OnRank (rank : Nat) (axis : Int64) : Prop :=
  -(rank : Int) ≤ axis.toInt ∧ axis.toInt < rank

instance (rank : Nat) (axis : Int64) : Decidable (OnRank rank axis) :=
  inferInstanceAs (Decidable (_ ∧ _))

theorem onRank_iff {rank : Nat} {axis : Int64} :
    OnRank rank axis ↔ ∃ place, axisPosition? rank axis.toInt = some place := by
  simp only [axisPosition?_eq_some, OnRank]
  constructor
  · rintro ⟨fromEnd, below⟩
    refine ⟨(if axis.toInt < 0 then rank + axis.toInt else axis.toInt).toNat, ?_⟩
    split <;> omega
  · rintro ⟨place, within, located⟩
    split at located <;> omega

/-- An axis that is located, and no fault, is one of the tensor. -/
theorem lt_of_located {Fault : Type} {rank axis : Nat} {given : Int} {fault : Fault}
    (located : (match axisPosition? rank given with
      | some position => .ok position
      | none => .error fault : Except Fault Nat) = .ok axis) :
    axis < rank := by
  split at located
  next position present =>
    cases located
    exact (axisPosition?_eq_some.mp present).1
  next => cases located

/-- The axis of a node is one of its data. -/
theorem Gather.axis_lt {node : Node} {rank axis : Nat}
    (placed : Gather.axis node rank = .ok axis) :
    axis < rank := by
  rw [Gather.axis] at placed
  dsimp only at placed
  split at placed
  next => exact lt_of_located placed
  next =>
    split at placed
    next => cases placed
    next => exact lt_of_located placed

/-! ## Axes of sums -/

/-- Outcomes for all items of a list. -/
theorem forall₂_of_mapM_eq_ok {Fault α β : Type} {attempt : α → Except Fault β} {items : List α}
    {results : List β} (run : items.mapM attempt = .ok results) :
    List.Forall₂ (fun item result => attempt item = .ok result) items results := by
  induction items generalizing results with
  | nil =>
      cases run
      exact .nil
  | cons item rest ih =>
      rw [List.mapM_cons] at run
      rcases outcome_bind_eq_ok.mp run with ⟨result, first, following⟩
      rcases outcome_bind_eq_ok.mp following with ⟨others, remaining, done⟩
      cases done
      exact .cons first (ih remaining)

namespace ReduceSum

variable {node : Node} {data : String} {rank : Nat}

theorem position_eq_ok {axis : Int} {place : Nat} :
    position node data (some rank) axis = .ok place ↔
      axisPosition? rank axis = some place := by
  rw [position]
  cases axisPosition? rank axis <;> simp

/-- The positions of axes increase, and are those that the axes have. Every axis has one. -/
theorem positions_eq_ok {axes : List Int64} {places : List Nat}
    (found : positions node data (some rank) axes = .ok places) :
    places.Pairwise (· < ·) ∧
      (∀ place, place ∈ places ↔ ∃ axis ∈ axes, axisPosition? rank axis.toInt = some place) ∧
      ∀ axis ∈ axes, ∃ place, axisPosition? rank axis.toInt = some place := by
  rw [positions] at found
  cases located : axes.mapM fun axis => position node data (some rank) axis.toInt with
  | error fault =>
      rw [located] at found
      cases found
  | ok all =>
      rw [located] at found
      cases found
      have sorted := @List.pairwise_mergeSort Nat (fun a b => decide (a ≤ b))
        (by simp only [decide_eq_true_eq]; exact fun _ _ _ => Nat.le_trans)
        (by simp only [Bool.or_eq_true, decide_eq_true_eq]; exact Nat.le_total) all
      simp only [decide_eq_true_eq] at sorted
      have ordered := sorted.imp fun le => (Nat.lt_or_eq_of_le le).symm
      have each := forall₂_of_mapM_eq_ok located
      refine ⟨pairwise_eraseReps Nat.lt_trans ordered, fun place => ?_, ?_⟩
      · rw [mem_eraseReps, (List.mergeSort_perm all _).mem_iff]
        clear located sorted ordered
        induction each with
        | nil => simp
        | cons first _ ih => simp [ih, position_eq_ok.mp first, eq_comm]
      · clear located sorted ordered
        induction each with
        | nil => exact List.forall_mem_nil _
        | cons first _ ih => exact List.forall_mem_cons.mpr ⟨⟨_, position_eq_ok.mp first⟩, ih⟩

/-- Increasing positions below a rank are no more than the rank. -/
theorem length_le_of_increasing {places : List Nat} (increasing : places.Pairwise (· < ·))
    (within : ∀ place ∈ places, place < rank) :
    places.length ≤ rank := by
  have distinct : places.Nodup := increasing.imp fun before => Nat.ne_of_lt before
  have subset : places ⊆ List.range rank := fun place member =>
    List.mem_range.mpr (within place member)
  simpa using (distinct.subperm subset).length_le

/-- Whether a reduction goes along axes of a tensor of that rank, and leaves one if it drops
them. -/
def Reduction.Fits (rank : Nat) : Reduction → Prop
  | identity | total => True
  | kept axes => ∀ axis ∈ axes, axis < rank
  | dropped axes whole => whole = rank ∧ axes.Nodup ∧ (∀ axis ∈ axes, axis < rank) ∧
      axes.length < rank

/-- A reduction that is found fits its data. -/
theorem reduction_fits {request : Request} {reduction : Reduction}
    (found : ReduceSum.reduction node data (some rank) request = .ok reduction) :
    reduction.Fits rank := by
  rw [ReduceSum.reduction] at found
  split at found
  next =>
    rcases outcome_bind_eq_ok.mp found with ⟨places, located, along⟩
    have ⟨increasing, places_iff, _⟩ := positions_eq_ok located
    have within : ∀ place ∈ places, place < rank := by
      intro place member
      rcases (places_iff place).mp member with ⟨axis, _, present⟩
      exact (axisPosition?_eq_some.mp present).1
    rw [reductionAlong] at along
    split at along
    next =>
      cases along
      exact within
    next =>
      cases along
      split
      next => trivial
      next some_left =>
        have atMost := length_le_of_increasing increasing within
        exact ⟨rfl, increasing.imp fun before => Nat.ne_of_lt before, within,
          Nat.lt_of_le_of_ne atMost (Ne.symm some_left)⟩
  next =>
    split at found
    next =>
      cases found
      trivial
    next =>
      split at found
      next =>
        cases found
        trivial
      next =>
        cases found
        exact fun axis member => List.mem_range.mp member

end ReduceSum

end OnnxForge.Network

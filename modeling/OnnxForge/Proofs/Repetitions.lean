import Mathlib.Data.List.Nodup

/-!
# Merged repetitions

Where a list stands in order, equal items are neighbours, and merging neighbours that are
alike leaves every member once.
-/

namespace OnnxForge

variable {α : Type} [BEq α] [LawfulBEq α]

theorem eraseReps_cons_cons (first second : α) (rest : List α) :
    (first :: second :: rest).eraseReps =
      if first == second then (second :: rest).eraseReps
      else first :: (second :: rest).eraseReps := by
  have loop : ∀ (items : List α) (item : α) (passed : List α),
      List.eraseRepsBy.loop (fun a b => a == b) item items passed =
        passed.reverse ++ (item :: items).eraseReps := by
    intro items
    induction items with
    | nil =>
        intro item passed
        exact List.reverse_cons
    | cons next others ih =>
        intro item passed
        rw [List.eraseReps, List.eraseRepsBy, List.eraseRepsBy.loop, List.eraseRepsBy.loop]
        split
        · rw [ih, ih, List.reverse_nil, List.nil_append]
        · rw [ih, ih, List.reverse_cons, List.reverse_singleton, List.append_assoc]
  rw [List.eraseReps, List.eraseRepsBy, List.eraseRepsBy.loop]
  cases same : first == second with
  | true =>
      rcases eq_of_beq same with rfl
      rw [if_pos rfl, loop]
      rfl
  | false => exact loop rest second [first]

theorem mem_eraseReps (items : List α) (item : α) :
    item ∈ items.eraseReps ↔ item ∈ items := by
  induction items with
  | nil => exact Iff.rfl
  | cons first rest ih =>
      cases rest with
      | nil => exact Iff.rfl
      | cons second rest =>
          rw [eraseReps_cons_cons]
          split
          next same => simp [ih, eq_of_beq same]
          next => simp [ih]

/-- A list in order is in strict order once repetitions are gone. -/
theorem pairwise_eraseReps {before : α → α → Prop} {items : List α}
    (transitive : ∀ {a b c : α}, before a b → before b c → before a c)
    (sorted : items.Pairwise fun a b => a = b ∨ before a b) :
    items.eraseReps.Pairwise before := by
  induction items with
  | nil => exact .nil
  | cons first rest ih =>
      rcases List.pairwise_cons.mp sorted with ⟨least, sortedRest⟩
      cases rest with
      | nil => exact List.pairwise_singleton _ _
      | cons second rest =>
          rw [eraseReps_cons_cons]
          split
          next => exact ih sortedRest
          next different =>
            refine List.pairwise_cons.mpr ⟨fun item member => ?_, ih sortedRest⟩
            have next : before first second :=
              (least second List.mem_cons_self).resolve_left (different <| beq_iff_eq.mpr ·)
            rcases List.mem_cons.mp ((mem_eraseReps _ item).mp member) with rfl | later
            · exact next
            · rcases (List.pairwise_cons.mp sortedRest).1 item later with rfl | following
              · exact next
              · exact transitive next following

end OnnxForge

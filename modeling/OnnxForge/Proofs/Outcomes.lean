import Mathlib.Data.List.Forall2
import OnnxForge.Attempt

/-!
# Outcomes for lists

A step that may fail is taken for every item of a list. The first failure counts, so there
is a list of results exactly if every item has one.
-/

namespace OnnxForge

variable {Fault α β γ : Type} {step : α → Except Fault β}

theorem exists_of_isOk {outcome : Except Fault α} (accepted : outcome.isOk = true) :
    ∃ value, outcome = .ok value := by
  cases outcome with
  | error fault => cases accepted
  | ok value => exact ⟨value, rfl⟩

/-- Two outcomes in a row fail with the fault of the first that does. -/
theorem bind_eq_error {outcome : Except Fault α} {next : α → Except Fault β} {fault : Fault} :
    (outcome >>= next) = .error fault ↔
      outcome = .error fault ∨ ∃ value, outcome = .ok value ∧ next value = .error fault := by
  cases outcome <;> simp [bind, Except.bind]

/-- Another wording of a fault does not change values. -/
theorem mapError_eq_ok {Cause : Type} {fault : Cause → Fault} {outcome : Except Cause α}
    {value : α} : outcome.mapError fault = .ok value ↔ outcome = .ok value := by
  cases outcome <;> simp [Except.mapError]

/-- An outcome for every item of a list is a value when it is one for each of them. -/
theorem mapM_eq_ok_iff {items : List α} {results : List β} :
    items.mapM step = .ok results ↔
      List.Forall₂ (fun item result => step item = .ok result) items results := by
  induction items generalizing results with
  | nil =>
      rw [List.forall₂_nil_left_iff]
      exact ⟨fun same => (Except.ok.inj same).symm, fun same => congrArg Except.ok same.symm⟩
  | cons item rest ih =>
      rw [List.mapM_cons, Attempt.outcome_bind_eq_ok, List.forall₂_cons_left_iff]
      constructor
      · rintro ⟨result, first, following⟩
        rcases Attempt.outcome_bind_eq_ok.mp following with ⟨others, remaining, done⟩
        cases done
        exact ⟨result, others, first, ih.mp remaining, rfl⟩
      · rintro ⟨result, others, first, remaining, rfl⟩
        exact ⟨result, first, Attempt.outcome_bind_eq_ok.mpr ⟨others, ih.mpr remaining, rfl⟩⟩

/-- The fault of a list is that of an item. -/
theorem exists_of_mapM_eq_error {items : List α} {fault : Fault}
    (failed : items.mapM step = .error fault) :
    ∃ item ∈ items, step item = .error fault := by
  induction items with
  | nil => cases failed
  | cons item rest ih =>
      rw [List.mapM_cons] at failed
      cases first : step item with
      | error found =>
          rw [first] at failed
          cases failed
          exact ⟨item, List.mem_cons_self, first⟩
      | ok result =>
          cases remaining : rest.mapM step with
          | ok others =>
              rw [first, remaining] at failed
              cases failed
          | error found =>
              rw [first, remaining] at failed
              cases failed
              rcases ih remaining with ⟨other, member, found⟩
              exact ⟨other, List.mem_cons_of_mem _ member, found⟩

/-- In related lists every item has one that it is related to. -/
theorem exists_of_forall₂ {Related : α → β → Prop} {items : List α} {results : List β}
    (related : List.Forall₂ Related items results) {item : α} (member : item ∈ items) :
    ∃ result ∈ results, Related item result := by
  induction related with
  | nil => cases member
  | cons first _ ih =>
      rcases List.mem_cons.mp member with rfl | later
      · exact ⟨_, List.mem_cons_self, first⟩
      · rcases ih later with ⟨result, present, made⟩
        exact ⟨result, List.mem_cons_of_mem _ present, made⟩

/-- Every item of a list that has results has one. -/
theorem exists_of_mem_items {items : List α} {results : List β} (run : items.mapM step = .ok results)
    {item : α} (member : item ∈ items) : ∃ result ∈ results, step item = .ok result :=
  exists_of_forall₂ (mapM_eq_ok_iff.mp run) member

theorem mapM_map_eq_ok {items : List γ} {make : γ → α} {result : γ → β}
    (each : ∀ item ∈ items, step (make item) = .ok (result item)) :
    (items.map make).mapM step = .ok (items.map result) := by
  rw [mapM_eq_ok_iff, List.forall₂_map_left_iff, List.forall₂_map_right_iff, List.forall₂_same]
  exact each

/-- Items that come back each come back together. -/
theorem mapM_map_eq_ok_same {items : List β} {make : β → α}
    (each : ∀ item ∈ items, step (make item) = .ok item) :
    (items.map make).mapM step = .ok items := by
  have same : (items.map make).mapM step = .ok (items.map id) := mapM_map_eq_ok each
  rwa [List.map_id] at same

/-- What every step keeps is kept in the list. -/
theorem map_eq_of_mapM_eq_ok {items : List α} {results : List β} {before : α → γ} {after : β → γ}
    (kept : ∀ {item result}, step item = .ok result → after result = before item)
    (run : items.mapM step = .ok results) :
    results.map after = items.map before := by
  have related := (mapM_eq_ok_iff.mp run).imp fun _ _ one => (kept one).symm
  rw [← List.forall₂_eq_eq_eq, List.forall₂_map_left_iff, List.forall₂_map_right_iff]
  exact related.flip.imp fun _ _ same => same.symm

/-- Another step has the same values exactly if it agrees on every item. -/
theorem mapM_eq_ok_iff_agree {other : α → Except Fault β} {items : List α} {results : List β}
    (run : items.mapM step = .ok results) :
    items.mapM other = .ok results ↔ ∀ item ∈ items, step item = other item := by
  have related := mapM_eq_ok_iff.mp run
  rw [mapM_eq_ok_iff]
  clear run
  induction related with
  | nil => simp
  | cons first _ ih =>
      rw [List.forall₂_cons, List.forall_mem_cons, first]
      exact and_congr eq_comm ih

end OnnxForge

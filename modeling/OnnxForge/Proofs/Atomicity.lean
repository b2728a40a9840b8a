import OnnxForge.Attempt

/-!
# Atomic attempts

An attempt is atomic when a fault leaves the state as it was. An attempt has this
property when its checks, which change nothing, come before its changes, which do not
fail. The rules of this module put an attempt together from the two kinds of steps.
-/

namespace OnnxForge.Attempt

variable {Fault Cause State α β : Type}

/-- An attempt that changes the state as a relation allows, whether it fails or not. -/
def Respects (related : State → State → Prop) (attempt : Attempt Fault State α) : Prop :=
  ∀ before, related before (attempt before).2

/-- An attempt that changes nothing, whether it fails or not. -/
def ReadOnly (attempt : Attempt Fault State α) : Prop :=
  ∀ before, (attempt before).2 = before

/-- An attempt that succeeds from every state, and changes it as a relation allows. -/
def Succeeds (related : State → State → Prop) (attempt : Attempt Fault State α) : Prop :=
  ∀ before, ∃ value after,
    attempt before = (.ok value, after) ∧ related before after

/--
An attempt that changes the state as a relation allows when it succeeds, and not at all
when it fails.
-/
def Atomic (related : State → State → Prop) (attempt : Attempt Fault State α) : Prop :=
  ∀ before,
    match attempt before with
    | (.ok _, after) => related before after
    | (.error _, after) => after = before

/-! ## Steps in a row -/

theorem Respects.bind
    {related : State → State → Prop}
    {first : Attempt Fault State α}
    {next : α → Attempt Fault State β}
    (firstRespects : Respects related first)
    (nextRespects : ∀ value, Respects related (next value))
    (transitive : ∀ {a b c}, related a b → related b c → related a c) :
    Respects related (first >>= next) := by
  intro before
  have changed := firstRespects before
  rw [bind_run]
  generalize first before = run at changed ⊢
  rcases run with ⟨fault | value, between⟩
  · exact changed
  · exact transitive changed (nextRespects value between)

section

variable {related : State → State → Prop}
  (reflexive : ∀ state, related state state)
  (transitive : ∀ {a b c}, related a b → related b c → related a c)

include reflexive transitive

theorem respects_forM
    {step : α → Attempt Fault State Unit}
    (respects : ∀ item, Respects related (step item))
    (items : List α) :
    Respects related (items.forM step) := by
  induction items with
  | nil => exact reflexive
  | cons item rest ih => exact (respects item).bind (fun _ => ih) transitive

theorem respects_mapM
    {step : α → Attempt Fault State β}
    (respects : ∀ item, Respects related (step item))
    (items : List α) :
    Respects related (items.mapM step) := by
  induction items with
  | nil => exact reflexive
  | cons item rest ih =>
      rw [List.mapM_cons]
      exact (respects item).bind (fun _ => ih.bind (fun _ => reflexive) transitive) transitive

end

/-! ## Steps that change nothing -/

/-- The state after is the one before. -/
theorem readOnly_iff {attempt : Attempt Fault State α} :
    ReadOnly attempt ↔ Respects (fun before after => after = before) attempt :=
  Iff.rfl

theorem readOnly_pure (value : α) :
    ReadOnly (pure value : Attempt Fault State α) := by
  intro before
  rfl

theorem readOnly_throw (fault : Fault) :
    ReadOnly (throw fault : Attempt Fault State α) := by
  intro before
  rfl

theorem readOnly_get : ReadOnly (get : Attempt Fault State State) := by
  intro before
  rfl

theorem readOnly_ofExcept (fault : Cause → Fault) (outcome : Except Cause α) :
    ReadOnly (ofExcept fault outcome : Attempt Fault State α) := by
  intro before
  rw [ofExcept_run]

theorem ReadOnly.bind
    {first : Attempt Fault State α}
    {next : α → Attempt Fault State β}
    (firstReads : ReadOnly first)
    (nextReads : ∀ value, ReadOnly (next value)) :
    ReadOnly (first >>= next) :=
  readOnly_iff.mpr ((readOnly_iff.mp firstReads).bind nextReads fun early late => late.trans early)

/-- Running a check on every item of a list changes nothing. -/
theorem readOnly_forM
    {check : α → Attempt Fault State Unit}
    (reads : ∀ item, ReadOnly (check item))
    (items : List α) :
    ReadOnly (items.forM check) := by
  refine readOnly_iff.mpr (respects_forM ?_ ?_ reads items)
  · exact fun _ => rfl
  · exact fun early late => late.trans early

/-! ## Steps that do not fail -/

theorem succeeds_modify
    {related : State → State → Prop}
    {change : State → State}
    (changes : ∀ before, related before (change before)) :
    Succeeds related (modify change : Attempt Fault State Unit) := by
  intro before
  exact ⟨(), change before, rfl, changes before⟩

theorem Succeeds.bind
    {related : State → State → Prop}
    {first : Attempt Fault State α}
    {next : α → Attempt Fault State β}
    (firstSucceeds : Succeeds related first)
    (nextSucceeds : ∀ value, Succeeds related (next value))
    (transitive : ∀ {a b c}, related a b → related b c → related a c) :
    Succeeds related (first >>= next) := by
  intro before
  rcases firstSucceeds before with ⟨value, between, firstRun, firstRelated⟩
  rcases nextSucceeds value between with ⟨result, after, nextRun, nextRelated⟩
  refine ⟨result, after, ?_, transitive firstRelated nextRelated⟩
  exact bind_eq_ok.2 ⟨value, between, firstRun, nextRun⟩

/-- A result may be given after the last change. -/
theorem Succeeds.bind_pure
    {related : State → State → Prop}
    {first : Attempt Fault State α}
    (firstSucceeds : Succeeds related first)
    (result : α → β) :
    Succeeds related (first >>= fun value => pure (result value)) := by
  intro before
  rcases firstSucceeds before with ⟨value, after, firstRun, firstRelated⟩
  refine ⟨result value, after, ?_, firstRelated⟩
  exact bind_eq_ok.2 ⟨value, after, firstRun, rfl⟩

/-! ## Checks before changes -/

theorem Succeeds.atomic
    {related : State → State → Prop}
    {attempt : Attempt Fault State α}
    (succeeds : Succeeds related attempt) :
    Atomic related attempt := by
  intro before
  rcases succeeds before with ⟨value, after, run, isRelated⟩
  rw [run]
  exact isRelated

theorem ReadOnly.atomic
    {related : State → State → Prop}
    (reflexive : ∀ state, related state state)
    {attempt : Attempt Fault State α}
    (reads : ReadOnly attempt) :
    Atomic related attempt := by
  intro before
  have unchanged := reads before
  generalize attempt before = run at unchanged ⊢
  rcases run with ⟨fault | value, after⟩
  · exact unchanged
  · obtain rfl : after = before := unchanged
    exact reflexive after

/-- A check before an atomic attempt leaves it atomic. -/
theorem ReadOnly.bind_atomic
    {related : State → State → Prop}
    {first : Attempt Fault State α}
    {next : α → Attempt Fault State β}
    (firstReads : ReadOnly first)
    (nextAtomic : ∀ value, Atomic related (next value)) :
    Atomic related (first >>= next) := by
  intro before
  have unchanged := firstReads before
  rw [bind_run]
  generalize first before = run at unchanged ⊢
  rcases run with ⟨fault | value, between⟩
  · exact unchanged
  · obtain rfl : between = before := unchanged
    exact nextAtomic value between

/-- An atomic attempt that failed left the state as it was. -/
theorem Atomic.eq_of_error
    {related : State → State → Prop}
    {attempt : Attempt Fault State α}
    (atomic : Atomic related attempt)
    {before after : State} {fault : Fault}
    (failed : attempt before = (.error fault, after)) :
    after = before := by
  have outcome := atomic before
  rw [failed] at outcome
  exact outcome

/-- An atomic attempt that succeeded changed the state as its relation allows. -/
theorem Atomic.related_of_ok
    {related : State → State → Prop}
    {attempt : Attempt Fault State α}
    (atomic : Atomic related attempt)
    {before after : State} {value : α}
    (succeeded : attempt before = (.ok value, after)) :
    related before after := by
  have outcome := atomic before
  rw [succeeded] at outcome
  exact outcome

/-- An atomic attempt is refused as a whole, or gives its value to who asked for it. -/
theorem Atomic.refused_or_answered
    {related : State → State → Prop}
    {attempt : Attempt Fault State α}
    (atomic : Atomic related attempt)
    (answer : α → β) (before : State) :
    (∃ fault, (attempt >>= fun value => pure (answer value)) before =
      (.error fault, before)) ∨
    ∃ value after, attempt before = (.ok value, after) ∧
      (attempt >>= fun value => pure (answer value)) before =
        (.ok (answer value), after) := by
  cases run : attempt before with
  | mk outcome after =>
      cases outcome with
      | error fault =>
          rcases atomic.eq_of_error run with rfl
          exact .inl ⟨fault, bind_eq_error.2 (.inl run)⟩
      | ok value =>
          exact .inr ⟨value, after, rfl, bind_eq_ok.2 ⟨value, after, run, rfl⟩⟩

end OnnxForge.Attempt

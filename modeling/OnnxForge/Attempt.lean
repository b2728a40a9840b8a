/-!
# Attempts

An attempt changes a state, and gives a value or a fault. What it changed before a fault
stays changed.
-/

namespace OnnxForge

/-- A computation on a state that may fail. -/
abbrev Attempt (Fault State : Type) := ExceptT Fault (StateM State)

namespace Attempt

variable {Fault Cause State α β : Type}

/-- Two outcomes in a row are a value when both are. -/
theorem outcome_bind_eq_ok {outcome : Except Fault α} {next : α → Except Fault β} {result : β} :
    (outcome >>= next) = .ok result ↔
      ∃ value, outcome = .ok value ∧ next value = .ok result := by
  cases outcome with
  | error fault =>
    constructor
    · intro failed
      cases failed
    · rintro ⟨_, succeeded, _⟩
      cases succeeded
  | ok value =>
    constructor
    · intro rest
      exact ⟨value, rfl, rest⟩
    · rintro ⟨_, same, rest⟩
      cases same
      exact rest

/-- An outcome that was found without the state, with its fault as the attempt has it. -/
def ofExcept (fault : Cause → Fault) : Except Cause α → Attempt Fault State α
  | .ok value => pure value
  | .error cause => throw (fault cause)

@[simp]
theorem pure_run (value : α) (before : State) :
    (pure value : Attempt Fault State α) before = (.ok value, before) :=
  rfl

@[simp]
theorem throw_run (fault : Fault) (before : State) :
    (throw fault : Attempt Fault State α) before = (.error fault, before) :=
  rfl

@[simp]
theorem get_run (before : State) :
    (get : Attempt Fault State State) before = (.ok before, before) :=
  rfl

@[simp]
theorem modify_run (change : State → State) (before : State) :
    (modify change : Attempt Fault State Unit) before = (.ok (), change before) :=
  rfl

@[simp]
theorem modifyGet_run (change : State → α × State) (before : State) :
    (modifyGet change : Attempt Fault State α) before =
      (.ok (change before).1, (change before).2) :=
  rfl

@[simp]
theorem ofExcept_ok_run (fault : Cause → Fault) (value : α) (before : State) :
    (ofExcept fault (.ok value) : Attempt Fault State α) before = (.ok value, before) :=
  rfl

@[simp]
theorem ofExcept_run (fault : Cause → Fault) (outcome : Except Cause α) (before : State) :
    (ofExcept fault outcome : Attempt Fault State α) before =
      (outcome.mapError fault, before) := by
  cases outcome <;> rfl

/-- An outcome that was found without the state leaves the state. -/
theorem ofExcept_eq_ok {fault : Cause → Fault} {outcome : Except Cause α} {value : α}
    {before after : State} :
    (ofExcept fault outcome : Attempt Fault State α) before = (.ok value, after) ↔
      outcome = .ok value ∧ after = before := by
  rw [ofExcept_run]
  cases outcome with
  | error cause =>
    constructor
    · intro failed
      cases failed
    · rintro ⟨succeeded, _⟩
      cases succeeded
  | ok found =>
    constructor
    · intro same
      cases same
      exact ⟨rfl, rfl⟩
    · rintro ⟨same, rfl⟩
      cases same
      rfl

/-- The second of two attempts goes on from where the first one came to. -/
theorem bind_run (first : Attempt Fault State α) (next : α → Attempt Fault State β)
    (before : State) :
    (first >>= next) before =
      match first before with
      | (.ok value, between) => next value between
      | (.error fault, between) => (.error fault, between) := by
  change (match first before with
    | (outcome, between) => ExceptT.bindCont next outcome between) = _
  rcases first before with ⟨_ | _, _⟩ <;> rfl

/-- Two attempts in a row succeed when both do. -/
theorem bind_eq_ok {first : Attempt Fault State α} {next : α → Attempt Fault State β}
    {before after : State} {result : β} :
    (first >>= next) before = (.ok result, after) ↔
      ∃ value between, first before = (.ok value, between) ∧
        next value between = (.ok result, after) := by
  rw [bind_run]
  rcases first before with ⟨fault | value, between⟩
  · constructor
    · intro failed
      cases failed
    · rintro ⟨_, _, succeeded, _⟩
      cases succeeded
  · constructor
    · intro rest
      exact ⟨value, between, rfl, rest⟩
    · rintro ⟨_, _, same, rest⟩
      cases same
      exact rest

/-- Two attempts in a row fail when the first one does, or the second after the first. -/
theorem bind_eq_error {first : Attempt Fault State α} {next : α → Attempt Fault State β}
    {before after : State} {fault : Fault} :
    (first >>= next) before = (.error fault, after) ↔
      first before = (.error fault, after) ∨
        ∃ value between, first before = (.ok value, between) ∧
          next value between = (.error fault, after) := by
  rw [bind_run]
  rcases first before with ⟨found | value, between⟩
  · constructor
    · intro failed
      cases failed
      exact .inl rfl
    · rintro (same | ⟨_, _, succeeded, _⟩)
      · cases same
        rfl
      · cases succeeded
  · constructor
    · intro rest
      exact .inr ⟨value, between, rfl, rest⟩
    · rintro (failed | ⟨_, _, same, rest⟩)
      · cases failed
      · cases same
        exact rest

/-- A result that is made of the value of an attempt. -/
theorem bind_pure_eq_ok {attempt : Attempt Fault State α} {build : α → β} {before after : State}
    {result : β} :
    (attempt >>= fun value => pure (build value)) before = (.ok result, after) ↔
      ∃ value, attempt before = (.ok value, after) ∧ result = build value := by
  constructor
  · intro succeeded
    rcases bind_eq_ok.mp succeeded with ⟨value, between, first, done⟩
    cases done
    exact ⟨value, first, rfl⟩
  · rintro ⟨value, first, rfl⟩
    exact bind_eq_ok.mpr ⟨value, after, first, rfl⟩

/-- What comes after an attempt counts only where the attempt can get to. -/
theorem bind_run_congr {first other : Attempt Fault State α}
    {next following : α → Attempt Fault State β} {before : State}
    (start : first before = other before)
    (same : ∀ value between, other before = (.ok value, between) →
      next value between = following value between) :
    (first >>= next) before = (other >>= following) before := by
  rw [bind_run, bind_run, start]
  cases run : other before with
  | mk outcome between =>
      cases outcome with
      | error fault => rfl
      | ok value => exact same value between run

/-- An attempt on every item of a list succeeds when all of them do, one after the other. -/
theorem mapM_cons_eq_ok {step : α → Attempt Fault State β} {item : α} {rest : List α}
    {results : List β} {before after : State} :
    ((item :: rest).mapM step) before = (.ok results, after) ↔
      ∃ result others between, step item before = (.ok result, between) ∧
        rest.mapM step between = (.ok others, after) ∧ results = result :: others := by
  rw [List.mapM_cons]
  constructor
  · intro succeeded
    rcases bind_eq_ok.mp succeeded with ⟨result, between, first, following⟩
    rcases bind_eq_ok.mp following with ⟨others, final, remaining, done⟩
    cases done
    exact ⟨result, others, between, first, remaining, rfl⟩
  · rintro ⟨result, others, between, first, remaining, rfl⟩
    exact bind_eq_ok.mpr ⟨result, between, first, bind_eq_ok.mpr ⟨others, after, remaining, rfl⟩⟩

/-- A value that was found without the state is there for what comes next. -/
theorem lift_ok_bind_run (value : α) (next : α → Attempt Fault State β) (before : State) :
    ((liftM (Except.ok value : Except Fault α) : Attempt Fault State α) >>= next) before =
      next value before :=
  rfl

end Attempt

end OnnxForge

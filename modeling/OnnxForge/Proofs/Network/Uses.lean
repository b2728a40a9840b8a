import OnnxForge.Network.Uses

/-!
# Uses in a row

The variables of a network are read one after the other, each read taking its position away
from the uses that are left. If the positions left cover the reads to come, every read of a
variable that is read again is a clone. If they are the positions of the reads to come and
no others, the last read is no clone.
-/

namespace OnnxForge.Network.Uses

/-- The positions left for a variable. -/
def left (uses : Uses) (name : String) : List Nat :=
  (uses.get? name).getD []

/-- The uses after variables were registered, one after the other. -/
def registerAll (uses : Uses) (registered : List (String × Nat)) : Uses :=
  registered.foldl (fun uses use => uses.register use.1 use.2) uses

/-- The reads of variables at positions, each with whether it is cloned. -/
def consumeAll (uses : Uses) : List (String × Nat) → List (String × Bool) × Uses
  | [] => ([], uses)
  | (name, position) :: rest =>
    let (cloned, remaining) := uses.consume name position
    let (reads, after) := consumeAll remaining rest
    ((name, cloned) :: reads, after)

variable {uses : Uses}

/-! ## Positions left -/

theorem left_register (used : String) (position : Nat) (name : String) :
    (uses.register used position).left name =
      if name = used then uses.left used ++ [position] else uses.left name := by
  rw [register, left, Table.get?_insert]
  split <;> rfl

/-- The positions registered for a variable are left, after those it had. -/
theorem count_left_registerAll (uses : Uses) (registered : List (String × Nat))
    (name : String) (position : Nat) :
    ((uses.registerAll registered).left name).count position =
      (uses.left name).count position + registered.count (name, position) := by
  induction registered generalizing uses with
  | nil => rfl
  | cons use rest ih =>
      obtain ⟨used, place⟩ := use
      refine (ih (uses.register used place)).trans ?_
      rw [left_register, List.count_cons]
      by_cases same : name = used
      · subst same
        rw [if_pos rfl, List.count_append, List.count_singleton]
        simp only [beq_iff_eq, Prod.mk.injEq, true_and]
        omega
      · simp [same, Ne.symm same]

/-- A variable that is not registered has no positions. -/
theorem left_eq_nil {registered : List (String × Nat)} {name : String}
    (unregistered : ∀ position, (name, position) ∉ registered) :
    (registerAll .empty registered).left name = [] := by
  apply List.eq_nil_iff_forall_not_mem.mpr
  intro position present
  have counted := count_left_registerAll .empty registered name position
  rw [List.count_eq_zero.mpr (unregistered position)] at counted
  exact Nat.ne_of_gt (List.count_pos_iff.mpr present) counted

/-- A read is cloned when the same position or a later one is left for the variable. -/
theorem consume_fst (used : String) (position : Nat) :
    (uses.consume used position).1 =
      ((uses.left used).erase position).any fun later => decide (position ≤ later) := by
  rw [consume, left]
  cases uses.get? used <;> rfl

/-- A read takes away its position from its variable. -/
theorem left_consume (used : String) (position : Nat) (name : String) :
    (uses.consume used position).2.left name =
      if name = used then (uses.left used).erase position else uses.left name := by
  cases found : uses.get? used with
  | none =>
      rw [consume, found]
      by_cases same : name = used <;> simp [left, same, found]
  | some positions =>
      rw [consume, found, left, Table.get?_insert]
      by_cases same : name = used <;> simp [left, same, found]

/-! ## Rows of reads -/

theorem consumeAll_cons (used : String) (position : Nat) (rest : List (String × Nat)) :
    uses.consumeAll ((used, position) :: rest) =
      ((used, (uses.consume used position).1) ::
          ((uses.consume used position).2.consumeAll rest).1,
        ((uses.consume used position).2.consumeAll rest).2) :=
  rfl

/-- One row of reads after the other. -/
theorem consumeAll_append {first second : List (String × Nat)}
    {reads others : List (String × Bool)} {between after : Uses}
    (early : uses.consumeAll first = (reads, between))
    (late : between.consumeAll second = (others, after)) :
    uses.consumeAll (first ++ second) = (reads ++ others, after) := by
  induction first generalizing uses reads with
  | nil =>
      cases early
      exact late
  | cons use rest ih =>
      rw [consumeAll_cons] at early
      cases early
      rw [List.cons_append, consumeAll_cons, ih rfl]
      rfl

theorem map_fst_consumeAll (schedule : List (String × Nat)) :
    (uses.consumeAll schedule).1.map (·.1) = schedule.map (·.1) := by
  induction schedule generalizing uses with
  | nil => rfl
  | cons use rest ih =>
      rw [consumeAll_cons, List.map_cons, ih]
      rfl

/-! ## Clones and moves -/

/-- The positions left for a variable cover its reads to come. -/
def Covers (uses : Uses) (name : String) (schedule : List (String × Nat)) : Prop :=
  ∀ position, schedule.count (name, position) ≤ (uses.left name).count position

/-- The positions left for a variable are those of its reads to come. -/
def Matches (uses : Uses) (name : String) (schedule : List (String × Nat)) : Prop :=
  ∀ position, (uses.left name).count position = schedule.count (name, position)

variable {name used : String} {position : Nat} {rest : List (String × Nat)}

theorem Matches.covers {schedule : List (String × Nat)} (fits : uses.Matches name schedule) :
    uses.Covers name schedule :=
  fun position => Nat.le_of_eq (fits position).symm

/-- A read that was covered takes one position from the schedule and from what is left. -/
theorem Covers.count_tail (covers : uses.Covers name ((used, position) :: rest)) (other : Nat) :
    ((uses.consume used position).2.left name).count other +
        ((used, position) :: rest).count (name, other) =
      (uses.left name).count other + rest.count (name, other) := by
  rw [left_consume, List.count_cons]
  by_cases same : name = used
  · subst same
    have here := covers position
    rw [List.count_cons_self] at here
    rw [if_pos rfl, List.count_erase]
    by_cases atPosition : position = other
    · subst atPosition
      simp
      omega
    · simp [atPosition]
  · simp [same, Ne.symm same]

theorem Covers.tail (covers : uses.Covers name ((used, position) :: rest)) :
    (uses.consume used position).2.Covers name rest := by
  intro other
  have before := covers other
  have taken := covers.count_tail other
  omega

theorem Matches.tail (fits : uses.Matches name ((used, position) :: rest)) :
    (uses.consume used position).2.Matches name rest := by
  intro other
  have before := fits other
  have taken := fits.covers.count_tail other
  omega

/-- Of two reads of a variable whose reads are covered, the earlier one is a clone. -/
theorem Covers.clones {schedule : List (String × Nat)} (covers : uses.Covers name schedule)
    (sorted : schedule.Pairwise fun a b => a.2 ≤ b.2) :
    (uses.consumeAll schedule).1.Pairwise fun earlier later =>
      earlier.1 = name → later.1 = name → earlier.2 = true := by
  induction schedule generalizing uses with
  | nil => exact .nil
  | cons use rest ih =>
      obtain ⟨used, position⟩ := use
      rcases List.pairwise_cons.mp sorted with ⟨first, sortedRest⟩
      rw [consumeAll_cons]
      refine List.pairwise_cons.mpr ⟨?_, ih covers.tail sortedRest⟩
      rintro later member rfl sameName
      have scheduled : later.1 ∈ rest.map (·.1) := by
        rw [← map_fst_consumeAll]
        exact List.mem_map_of_mem member
      rcases List.mem_map.mp scheduled with ⟨⟨other, place⟩, inRest, named⟩
      obtain rfl : other = used := named.trans sameName
      have positive := List.count_pos_iff.mpr inRest
      have remains := covers.tail place
      rw [left_consume, if_pos rfl] at remains
      have stays := List.count_pos_iff.mp (Nat.lt_of_lt_of_le positive remains)
      have notBefore : position ≤ place := first _ inRest
      rw [consume_fst]
      exact List.any_eq_true.mpr ⟨place, stays, decide_eq_true notBefore⟩

/-- The last read of a variable that has no other positions is no clone. -/
theorem Matches.moves {schedule : List (String × Nat)} (fits : uses.Matches name schedule)
    {earlier later : List (String × Bool)} {cloned : Bool}
    (split : (uses.consumeAll schedule).1 = earlier ++ (name, cloned) :: later)
    (last : name ∉ later.map (·.1)) :
    cloned = false := by
  induction schedule generalizing uses earlier with
  | nil => cases earlier <;> cases split
  | cons use rest ih =>
      obtain ⟨used, position⟩ := use
      rw [consumeAll_cons] at split
      cases earlier with
      | cons first others => exact ih fits.tail (List.cons.inj split).2
      | nil =>
          rcases List.cons.inj split with ⟨same, following⟩
          rcases same with ⟨rfl, rfl⟩
          rw [← following, map_fst_consumeAll] at last
          have nothing : ((uses.left name).erase position) = [] := by
            apply List.eq_nil_iff_forall_not_mem.mpr
            intro place present
            have remains := fits.tail place
            rw [left_consume, if_pos rfl] at remains
            have scheduled := List.count_pos_iff.mp
              (remains ▸ List.count_pos_iff.mpr present)
            exact last (List.mem_map_of_mem scheduled)
          rw [consume_fst, nothing]
          rfl

/-- Reads of a variable without positions are no clones. -/
theorem moves_of_left_eq_nil {schedule : List (String × Nat)} (nothing : uses.left name = [])
    {cloned : Bool} (member : (name, cloned) ∈ (uses.consumeAll schedule).1) :
    cloned = false := by
  induction schedule generalizing uses with
  | nil => cases member
  | cons use rest ih =>
      obtain ⟨used, position⟩ := use
      rw [consumeAll_cons] at member
      rcases List.mem_cons.mp member with first | later
      · rcases first with ⟨rfl, rfl⟩
        rw [consume_fst, nothing]
        rfl
      · refine ih ?_ later
        rw [left_consume]
        split
        next same => simp [← same, nothing]
        next => exact nothing

end OnnxForge.Network.Uses

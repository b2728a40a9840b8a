import OnnxForge.Text.Numeral

/-!
# Reading numerals back

A decimal numeral determines its number and has digits only. A text that ends in a
separator and a numeral, or in which a separator follows a part without separators, is
therefore cut in one way only.
-/

namespace OnnxForge.Text

theorem toList_natural (n : Nat) :
    (natural n).toList = Nat.toDigits 10 n :=
  Nat.toList_repr

theorem natural_ne_empty (n : Nat) : natural n ≠ "" := fun empty =>
  Nat.toDigits_ne_nil ((toList_natural n).symm.trans (congrArg String.toList empty))

theorem natural_injective {m n : Nat} (same : natural m = natural n) : m = n := by
  have digits : Nat.toDigits 10 m = Nat.toDigits 10 n := by
    rw [← toList_natural, ← toList_natural, same]
  have values := congrArg (fun digits => Nat.ofDigitChars 10 digits 0) digits
  simpa using values

theorem isDigit_of_mem_natural {n : Nat} {c : Char} (member : c ∈ (natural n).toList) :
    c.isDigit = true := by
  rw [toList_natural] at member
  exact Nat.isDigit_of_mem_toDigits (by decide) (by decide) member

theorem exists_digit_natural (n : Nat) : ∃ c ∈ (natural n).toList, c.isDigit = true := by
  have written : (natural n).toList ≠ [] := mt String.toList_eq_nil_iff.mp (natural_ne_empty n)
  rcases List.exists_mem_of_ne_nil _ written with ⟨digit, present⟩
  exact ⟨digit, present, isDigit_of_mem_natural present⟩

theorem underscore_notMem_natural (n : Nat) : '_' ∉ (natural n).toList := fun member =>
  absurd (isDigit_of_mem_natural member) (by decide)

/-- A minus sign tells negative integers from the others. -/
theorem integer_injective {i j : Int} (same : integer i = integer j) : i = j := by
  have unmixed : ∀ m n : Nat, natural m ≠ "-" ++ natural n := by
    intro m n same
    have sign : '-' ∈ (natural m).toList := by simp [same]
    exact absurd (isDigit_of_mem_natural sign) (by decide)
  cases i with
  | ofNat m =>
      cases j with
      | ofNat n => exact congrArg Int.ofNat (natural_injective same)
      | negSucc n => exact (unmixed m (n + 1) same).elim
  | negSucc m =>
      cases j with
      | ofNat n => exact (unmixed n (m + 1) same.symm).elim
      | negSucc n =>
          have numbers := natural_injective ((String.append_right_inj _).mp same)
          exact congrArg Int.negSucc (Nat.succ.inj numbers)

/-! ## Cutting at a separator -/

variable {α : Type} {separator : α}

/-- A list is cut at its first separator in one way. -/
theorem append_separator_inj {firstHead secondHead firstTail secondTail : List α}
    (firstFree : separator ∉ firstHead)
    (secondFree : separator ∉ secondHead)
    (same : firstHead ++ separator :: firstTail = secondHead ++ separator :: secondTail) :
    firstHead = secondHead ∧ firstTail = secondTail := by
  induction firstHead generalizing secondHead with
  | nil =>
      cases secondHead with
      | nil => exact ⟨rfl, (List.cons.inj same).2⟩
      | cons head tail =>
          have equalHead : separator = head := (List.cons.inj same).1
          exact (secondFree (equalHead ▸ List.mem_cons_self)).elim
  | cons first rest ih =>
      cases secondHead with
      | nil =>
          have equalHead : first = separator := (List.cons.inj same).1
          exact (firstFree (equalHead ▸ List.mem_cons_self)).elim
      | cons head tail =>
          rcases List.cons.inj same with ⟨rfl, following⟩
          have cut := ih (fun member => firstFree (List.mem_cons_of_mem _ member))
            (fun member => secondFree (List.mem_cons_of_mem _ member)) following
          exact ⟨congrArg (first :: ·) cut.1, cut.2⟩

/-- A list is cut at its last separator in one way. -/
theorem separator_append_inj {firstHead secondHead firstTail secondTail : List α}
    (firstFree : separator ∉ firstTail)
    (secondFree : separator ∉ secondTail)
    (same : firstHead ++ separator :: firstTail = secondHead ++ separator :: secondTail) :
    firstHead = secondHead ∧ firstTail = secondTail := by
  have reversed : firstTail.reverse ++ separator :: firstHead.reverse =
      secondTail.reverse ++ separator :: secondHead.reverse := by
    simpa using congrArg List.reverse same
  have cut := append_separator_inj (by simpa using firstFree) (by simpa using secondFree)
    reversed
  exact ⟨List.reverse_inj.mp cut.2, List.reverse_inj.mp cut.1⟩

/-- The number after the last underscore and what stands before it are determined. -/
theorem numbered_inj {first second : String} {m n : Nat}
    (same : first ++ "_" ++ natural m = second ++ "_" ++ natural n) :
    first = second ∧ m = n := by
  have lists : first.toList ++ '_' :: (natural m).toList =
      second.toList ++ '_' :: (natural n).toList := by
    simpa using congrArg String.toList same
  have cut := separator_append_inj (underscore_notMem_natural m)
    (underscore_notMem_natural n) lists
  exact ⟨String.toList_inj.mp cut.1, natural_injective (String.toList_inj.mp cut.2)⟩

/-- Texts without underscores are determined by what they begin. -/
theorem separated_inj {first second firstRest secondRest : String}
    (firstFree : '_' ∉ first.toList)
    (secondFree : '_' ∉ second.toList)
    (same : first ++ "_" ++ firstRest = second ++ "_" ++ secondRest) :
    first = second ∧ firstRest = secondRest := by
  have lists : first.toList ++ '_' :: firstRest.toList =
      second.toList ++ '_' :: secondRest.toList := by
    simpa using congrArg String.toList same
  have cut := append_separator_inj firstFree secondFree lists
  exact ⟨String.toList_inj.mp cut.1, String.toList_inj.mp cut.2⟩

end OnnxForge.Text

import Mathlib.Tactic.SplitIfs
import OnnxForge.Proofs.Text.Numeral
import OnnxForge.Text.Quoted

/-!
# Reading quoted texts back

A hexadecimal numeral determines its number. Escapes differ from each other and from the
characters that stand for themselves, so a quoted text determines the text.
-/

namespace OnnxForge.Text

/-! ## Hexadecimal numerals -/

theorem digitChar_inj {m n : Nat} (below : m < 16) (alsoBelow : n < 16)
    (same : m.digitChar = n.digitChar) : m = n := by
  have all : ∀ first second : Fin 16, first.val.digitChar = second.val.digitChar →
      first = second := by
    decide
  exact congrArg Fin.val (all ⟨m, below⟩ ⟨n, alsoBelow⟩ same)

theorem toDigits_of_le {n : Nat} (large : 16 ≤ n) :
    Nat.toDigits 16 n = Nat.toDigits 16 (n / 16) ++ [(n % 16).digitChar] :=
  Nat.toDigits_of_base_le (by decide) large

theorem toDigits_injective {m n : Nat} (same : Nat.toDigits 16 m = Nat.toDigits 16 n) :
    m = n := by
  have unmixed : ∀ {small large : Nat}, small < 16 → 16 ≤ large →
      Nat.toDigits 16 small ≠ Nat.toDigits 16 large := by
    intro small large below above same
    rw [Nat.toDigits_of_lt_base below, toDigits_of_le above] at same
    have lengths := congrArg List.length same
    have positive : 0 < (Nat.toDigits 16 (large / 16)).length := Nat.length_toDigits_pos
    rw [List.length_append, List.length_singleton, List.length_singleton] at lengths
    omega
  induction m using Nat.strongRecOn generalizing n with
  | ind m ih =>
      rcases Nat.lt_or_ge m 16 with small | large
      · rcases Nat.lt_or_ge n 16 with alsoSmall | alsoLarge
        · rw [Nat.toDigits_of_lt_base small, Nat.toDigits_of_lt_base alsoSmall] at same
          exact digitChar_inj small alsoSmall (List.singleton_inj.mp same)
        · exact (unmixed small alsoLarge same).elim
      · rcases Nat.lt_or_ge n 16 with alsoSmall | alsoLarge
        · exact (unmixed alsoSmall large same.symm).elim
        · rw [toDigits_of_le large, toDigits_of_le alsoLarge] at same
          have ⟨leading, last⟩ := List.append_inj' same rfl
          have quotients := ih (m / 16) (by omega) leading
          have remainders := digitChar_inj (Nat.mod_lt _ (by decide)) (Nat.mod_lt _ (by decide))
            (List.singleton_inj.mp last)
          omega

theorem brace_notMem_toDigits (n : Nat) : '\x7d' ∉ Nat.toDigits 16 n := by
  induction n using Nat.strongRecOn with
  | ind n ih =>
      rcases Nat.lt_or_ge n 16 with small | large
      · rw [Nat.toDigits_of_lt_base small, List.mem_singleton]
        exact (Nat.digitChar_ne _ (by decide)).symm
      · rw [toDigits_of_le large, List.mem_append, List.mem_singleton, not_or]
        exact ⟨ih (n / 16) (by omega), (Nat.digitChar_ne _ (by decide)).symm⟩

/-! ## Escapes -/

/-- The characters that are escaped by a letter, each with its letter. -/
def escapes : List (Char × Char) :=
  [('\x00', '0'), ('\t', 't'), ('\r', 'r'), ('\n', 'n'), ('"', '"'), ('\\', '\\')]

/-- How a character is quoted. -/
inductive QuotedAs (c : Char) : List Char → Prop
  | letter {letter : Char} (escape : (c, letter) ∈ escapes) : QuotedAs c ['\\', letter]
  | code : QuotedAs c ('\\' :: 'u' :: '\x7b' :: (Nat.toDigits 16 c.toNat ++ ['\x7d']))
  | plain (apart : c ≠ '\\') : QuotedAs c [c]

theorem quotedAs (c : Char) : QuotedAs c (quotedChar c).toList := by
  rw [quotedChar]
  split_ifs with null tab carriageReturn newline quote backslash hidden
  · exact .letter (null ▸ by decide)
  · exact .letter (tab ▸ by decide)
  · exact .letter (carriageReturn ▸ by decide)
  · exact .letter (newline ▸ by decide)
  · exact .letter (quote ▸ by decide)
  · exact .letter (backslash ▸ by decide)
  · have code : ("\\u\x7b" ++ hexadecimal c.toNat ++ "\x7d").toList =
        '\\' :: 'u' :: '\x7b' :: (Nat.toDigits 16 c.toNat ++ ['\x7d']) := by
      simp [hexadecimal]
    exact code ▸ .code
  · rw [Char.toString, String.toList_singleton]
    exact .plain backslash

/-- What a character is quoted as begins no other one. -/
theorem QuotedAs.inj {c d : Char} {first second following rest : List Char}
    (quoted : QuotedAs c first) (other : QuotedAs d second)
    (same : first ++ following = second ++ rest) :
    c = d ∧ following = rest := by
  have letters : ∀ escape ∈ escapes, ∀ another ∈ escapes, escape.2 = another.2 →
      escape.1 = another.1 := by
    decide
  have noCode : ∀ escape ∈ escapes, escape.2 ≠ 'u' := by
    decide
  cases quoted with
  | letter escape =>
      cases other with
      | letter another =>
          obtain ⟨letter, rfl⟩ := List.cons.inj (List.cons.inj same).2
          exact ⟨letters _ escape _ another letter, rfl⟩
      | code => exact (noCode _ escape (List.cons.inj (List.cons.inj same).2).1).elim
      | plain apart => exact (apart (List.cons.inj same).1.symm).elim
  | code =>
      cases other with
      | letter another =>
          exact (noCode _ another (List.cons.inj (List.cons.inj same).2).1.symm).elim
      | code =>
          simp only [List.cons_append, List.cons.injEq, true_and, List.append_assoc] at same
          have ⟨numeral, remaining⟩ := append_separator_inj (brace_notMem_toDigits _)
            (brace_notMem_toDigits _) same
          exact ⟨Char.toNat_inj.mp (toDigits_injective numeral), remaining⟩
      | plain apart => exact (apart (List.cons.inj same).1.symm).elim
  | plain apart =>
      cases other with
      | letter => exact (apart (List.cons.inj same).1).elim
      | code => exact (apart (List.cons.inj same).1).elim
      | plain => exact List.cons.inj same

theorem quotedChar_ne_nil (c : Char) : (quotedChar c).toList ≠ [] := by
  intro empty
  cases empty ▸ quotedAs c

theorem flatMap_quotedChar_injective {first second : List Char}
    (same : (first.flatMap fun c => (quotedChar c).toList) =
      second.flatMap fun c => (quotedChar c).toList) :
    first = second := by
  induction first generalizing second with
  | nil =>
      cases second with
      | nil => rfl
      | cons d rest => exact (quotedChar_ne_nil d (List.append_eq_nil_iff.mp same.symm).1).elim
  | cons c rest ih =>
      cases second with
      | nil => exact (quotedChar_ne_nil c (List.append_eq_nil_iff.mp same).1).elim
      | cons d others =>
          have ⟨equal, following⟩ := (quotedAs c).inj (quotedAs d) same
          rw [equal, ih following]

/-- A quoted text determines the text. -/
theorem quoted_injective {first second : String} (same : quoted first = quoted second) :
    first = second := by
  rw [quoted, quoted, String.append_left_inj, String.append_right_inj] at same
  have lists := congrArg String.toList same
  rw [String.toList_join, String.toList_join, List.flatMap_map, List.flatMap_map] at lists
  exact String.toList_inj.mp (flatMap_quotedChar_injective lists)

end OnnxForge.Text

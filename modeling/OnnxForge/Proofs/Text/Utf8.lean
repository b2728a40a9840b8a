import OnnxForge.Text.Utf8

/-!
# Texts as octets

Every character is read back from the octets that encode it, and every text from those of
its characters.
-/

namespace OnnxForge.Text.Utf8

/-! ## One character -/

section Step

variable {lead second third fourth : UInt8} {rest : Bytes} {index : Nat}

theorem decodeFrom_one (width : width? lead = some 1) :
    decodeFrom index (lead :: rest) =
      (Char.ofNat lead.toNat :: ·) <$> decodeFrom (index + 1) rest := by
  rw [decodeFrom.eq_def]
  simp only [width]

theorem decodeFrom_two (width : width? lead = some 2) (follows : mayFollow lead second = true) :
    decodeFrom index (lead :: second :: rest) =
      (Char.ofNat (lead.toNat % 0x20 * 0x40 + payload second) :: ·) <$>
        decodeFrom (index + 2) rest := by
  rw [decodeFrom.eq_def]
  simp [width, follows]

theorem decodeFrom_three (width : width? lead = some 3) (follows : mayFollow lead second = true)
    (continued : isContinuation third = true) :
    decodeFrom index (lead :: second :: third :: rest) =
      (Char.ofNat (lead.toNat % 0x10 * 0x1000 + payload second * 0x40 + payload third) :: ·) <$>
        decodeFrom (index + 3) rest := by
  rw [decodeFrom.eq_def]
  simp [width, follows, continued]

theorem decodeFrom_four (width : width? lead = some 4) (follows : mayFollow lead second = true)
    (continued : isContinuation third = true) (ended : isContinuation fourth = true) :
    decodeFrom index (lead :: second :: third :: fourth :: rest) =
      (Char.ofNat (lead.toNat % 0x08 * 0x40000 + payload second * 0x1000
        + payload third * 0x40 + payload fourth) :: ·) <$>
        decodeFrom (index + 4) rest := by
  rw [decodeFrom.eq_def]
  simp [width, follows, continued, ended]

end Step

theorem toNat_octet {n : Nat} (small : n < 256) : (UInt8.ofNat n).toNat = n := by
  rw [UInt8.toNat_ofNat']
  exact Nat.mod_eq_of_lt small

/-- The number of a character is below the surrogates or above them. -/
theorem toNat_range (c : Char) :
    c.toNat < 0xD800 ∨ 0xDFFF < c.toNat ∧ c.toNat < 0x110000 :=
  c.valid

theorem isContinuation_payload (n : Nat) :
    isContinuation (UInt8.ofNat (0x80 + n % 0x40)) = true := by
  have octet := toNat_octet (n := 0x80 + n % 0x40) (by omega)
  simp only [isContinuation, octet, Bool.and_eq_true, decide_eq_true_eq]
  omega

theorem payload_continuation (n : Nat) : payload (UInt8.ofNat (0x80 + n % 0x40)) = n % 0x40 := by
  rw [payload, toNat_octet (by omega)]
  omega

/-- The octets of a character are read as the character. -/
theorem decodeFrom_encodeChar (c : Char) (index : Nat) (rest : Bytes) :
    ∃ next, decodeFrom index (encodeChar c ++ rest) = (c :: ·) <$> decodeFrom next rest := by
  have range := toNat_range c
  have again : ∀ n, n = c.toNat → Char.ofNat n = c := by
    rintro n rfl
    exact Char.ofNat_toNat c
  rw [encodeChar]
  split
  next one =>
    have lead := toNat_octet (n := c.toNat) (by omega)
    refine ⟨index + 1, ?_⟩
    rw [List.singleton_append, decodeFrom_one (by simp [width?, lead, one]), lead, again _ rfl]
  next notOne =>
    split
    next two =>
      have lead := toNat_octet (n := 0xC0 + c.toNat / 0x40) (by omega)
      have second := toNat_octet (n := 0x80 + c.toNat % 0x40) (by omega)
      refine ⟨index + 2, ?_⟩
      rw [List.cons_append, List.singleton_append, decodeFrom_two, payload_continuation, lead,
        again _ (by omega)]
      · rw [width?, lead, if_neg (by omega), if_pos (by omega)]
      · rw [mayFollow, lead, second]
        grind
    next notTwo =>
      split
      next three =>
        have lead := toNat_octet (n := 0xE0 + c.toNat / 0x1000) (by omega)
        have second := toNat_octet (n := 0x80 + c.toNat / 0x40 % 0x40) (by omega)
        refine ⟨index + 3, ?_⟩
        rw [List.cons_append, List.cons_append, List.singleton_append, decodeFrom_three,
          payload_continuation, payload_continuation, lead, again _ (by omega)]
        · rw [width?, lead, if_neg (by omega), if_neg (by omega), if_pos (by omega)]
        · rw [mayFollow, lead, second]
          grind
        · exact isContinuation_payload _
      next notThree =>
        have lead := toNat_octet (n := 0xF0 + c.toNat / 0x40000) (by omega)
        have second := toNat_octet (n := 0x80 + c.toNat / 0x1000 % 0x40) (by omega)
        refine ⟨index + 4, ?_⟩
        rw [List.cons_append, List.cons_append, List.cons_append, List.singleton_append,
          decodeFrom_four, payload_continuation, payload_continuation, payload_continuation, lead,
          again _ (by omega)]
        · rw [width?, lead, if_neg (by omega), if_neg (by omega), if_neg (by omega),
            if_pos (by omega)]
        · rw [mayFollow, lead, second]
          grind
        · exact isContinuation_payload _
        · exact isContinuation_payload _

/-! ## Texts -/

theorem decodeFrom_flatMap (characters : List Char) (index : Nat) :
    decodeFrom index (characters.flatMap encodeChar) = .ok characters := by
  induction characters generalizing index with
  | nil => rfl
  | cons c rest ih =>
      rcases decodeFrom_encodeChar c index (rest.flatMap encodeChar) with ⟨next, first⟩
      rw [List.flatMap_cons, first, ih next]
      rfl

/-- The octets of a text are read as the text. -/
@[simp]
theorem decode_encode (text : String) : decode (encode text) = .ok text := by
  rw [decode, encode, decodeFrom_flatMap]
  exact congrArg Except.ok (String.ofList_toList)

@[simp]
theorem decode?_encode (text : String) : decode? (encode text) = some text := by
  rw [decode?, decode_encode]
  rfl

end OnnxForge.Text.Utf8

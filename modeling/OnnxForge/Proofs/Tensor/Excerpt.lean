import OnnxForge.Proofs.Tensor.Scalars
import OnnxForge.Proofs.Text.Numeral
import OnnxForge.Tensor.Excerpt

/-!
# Reading excerpts

An excerpt names the representation of a payload and shows its elements from the first on, in
order, until the seventh, after which it ends with an ellipsis. The texts of numbers and truth
values have no commas and are no ellipsis, so what an excerpt shows of them is read back from
it. The ellipsis follows the seventh element also when there is no eighth one.
-/

namespace OnnxForge

/-! ## Texts of elements -/

/-- The text of an element in excerpts. -/
def Scalar.text : Scalar → String
  | .float16 bits => Decimal.ofHalf bits
  | .float32 bits => Decimal.ofSingle bits
  | .float64 bits => Decimal.ofDouble bits
  | .int32 value => Text.integer value.toInt
  | .int64 value => Text.integer value.toInt
  | .bool value => if value then "true" else "false"
  | .string value => value

/-- Whether the elements of a payload are texts. -/
def Payload.isText : Payload → Bool
  | .string _ => true
  | _ => false

theorem Payload.items_eq (payload : Payload) : payload.items = payload.scalars.map Scalar.text := by
  cases payload <;> simp [items, scalars, Scalar.text, Function.comp_def]

namespace Text

/-- A text that stands out from what a list sets around its items: it has no comma, and a
character other than a point. -/
structure Separable (text : String) : Prop where
  unseparated : ',' ∉ text.toList
  written : ∃ c ∈ text.toList, c ≠ '.'

namespace Separable

variable {text more : String}

theorem ne_nil (separable : Separable text) : text.toList ≠ [] := by
  rcases separable.written with ⟨_, member, _⟩
  exact List.ne_nil_of_mem member

theorem ne_ellipsis (separable : Separable text) : text ≠ "..." := by
  rcases separable.written with ⟨c, member, other⟩
  rintro rfl
  exact other (by simpa using member)

theorem append (separable : Separable text) (unseparated : ',' ∉ more.toList) :
    Separable (text ++ more) := by
  rcases separable.written with ⟨c, member, other⟩
  refine ⟨?_, c, by simp [member], other⟩
  rw [String.toList_append, List.mem_append, not_or]
  exact ⟨separable.unseparated, unseparated⟩

theorem prepend (separable : Separable text) (unseparated : ',' ∉ more.toList) :
    Separable (more ++ text) := by
  rcases separable.written with ⟨c, member, other⟩
  refine ⟨?_, c, by simp [member], other⟩
  rw [String.toList_append, List.mem_append, not_or]
  exact ⟨unseparated, separable.unseparated⟩

end Separable

theorem comma_notMem {digits : List Char} (numeric : ∀ c ∈ digits, c.isDigit = true) :
    ',' ∉ digits := fun member =>
  absurd (numeric ',' member) (by decide)

theorem ne_point_of_isDigit {c : Char} (digit : c.isDigit = true) : c ≠ '.' := by
  rintro rfl
  cases digit

theorem separable_natural (n : Nat) : Separable (natural n) := by
  rcases exists_digit_natural n with ⟨c, member, digit⟩
  exact ⟨comma_notMem fun _ => isDigit_of_mem_natural, c, member, ne_point_of_isDigit digit⟩

theorem separable_integer (value : Int) : Separable (integer value) := by
  cases value with
  | ofNat n => exact separable_natural n
  | negSucc n => exact (separable_natural (n + 1)).prepend (by decide)

end Text

namespace Decimal

open Text

/-- Zeros may be set before and after the digits of a decimal, and a point among them. -/
theorem separable_positional (decimal : Decimal) : Separable decimal.positional := by
  rw [positional]
  split
  next =>
    refine (separable_natural decimal.digits).append ?_
    simp [List.mem_replicate]
  next =>
    let places := (-decimal.exponent).toNat
    let digits := natural decimal.digits
    let padded := List.replicate (places + 1 - digits.length) '0' ++ digits.toList
    let whole := padded.length - places
    have numeric : ∀ c ∈ padded, c.isDigit = true := by
      refine List.forall_mem_append.mpr ⟨fun c member => ?_, fun c => isDigit_of_mem_natural⟩
      rw [(List.mem_replicate.mp member).2]
      rfl
    change Separable (String.ofList (padded.take whole) ++ "." ++ String.ofList (padded.drop whole))
    refine ⟨?_, ?_⟩
    · have front : ',' ∉ padded.take whole :=
        comma_notMem fun c member => numeric c (List.mem_of_mem_take member)
      have back : ',' ∉ padded.drop whole :=
        comma_notMem fun c member => numeric c (List.mem_of_mem_drop member)
      simp [front, back]
    · rcases exists_digit_natural decimal.digits with ⟨c, member, digit⟩
      have present : c ∈ padded.take whole ++ padded.drop whole := by
        rw [List.take_append_drop]
        exact List.mem_append_right _ member
      refine ⟨c, ?_, ne_point_of_isDigit digit⟩
      rcases List.mem_append.mp present with front | back
      · simp [front]
      · simp [back]

theorem separable_numeral (format : Ieee.Format) (bits : Nat) :
    Separable (numeral format bits) := by
  rw [numeral]
  split
  next => exact ⟨by decide, 'N', by decide, by decide⟩
  next negative _ =>
    cases negative with
    | true => exact ⟨by decide, 'i', by decide, by decide⟩
    | false => exact ⟨by decide, 'i', by decide, by decide⟩
  next negative significand exponent _ =>
    have magnitude : Separable (magnitude format significand exponent) := by
      rw [Decimal.magnitude]
      split
      · exact ⟨by decide, '0', by decide, by decide⟩
      · exact separable_positional _
    refine magnitude.prepend ?_
    cases negative <;> decide

end Decimal

/-- The texts of numbers and truth values stand out from what lists set around them. -/
theorem Payload.separable_items {payload : Payload} (numeric : payload.isText = false) :
    ∀ item ∈ payload.items, Text.Separable item := by
  cases payload with
  | float16 | float32 | float64 =>
      exact List.forall_mem_map.mpr fun _ _ => Decimal.separable_numeral _ _
  | int32 | int64 => exact List.forall_mem_map.mpr fun _ _ => Text.separable_integer _
  | bool =>
      refine List.forall_mem_map.mpr fun value _ => ?_
      cases value with
      | true => exact ⟨by decide, 't', by decide, by decide⟩
      | false => exact ⟨by decide, 'f', by decide, by decide⟩
  | string => cases numeric

/-! ## Items of lists -/

namespace Text

/-- The parts of a text between commas that a blank follows. -/
def cut : List Char → List (List Char)
  | [] => [[]]
  | ',' :: ' ' :: rest => [] :: cut rest
  | c :: rest => (cut rest).modifyHead (c :: ·)

theorem cut_cons {c : Char} (other : c ≠ ',') (rest : List Char) :
    cut (c :: rest) = (cut rest).modifyHead (c :: ·) := by
  rw [cut]
  simp [other]

theorem cut_append {item : List Char} (unseparated : ',' ∉ item) (rest : List Char) :
    cut (item ++ rest) = (cut rest).modifyHead (item ++ ·) := by
  induction item with
  | nil =>
      rw [List.nil_append]
      cases cut rest <;> rfl
  | cons c others ih =>
      have ⟨other, free⟩ := not_or.mp (mt List.mem_cons.mpr unseparated)
      rw [List.cons_append, cut_cons (Ne.symm other), ih free, List.modifyHead_modifyHead]
      rfl

/-- Items without commas are found between the separators of their list. -/
theorem cut_intercalate {items : List String} (some : items ≠ [])
    (unseparated : ∀ item ∈ items, ',' ∉ item.toList) :
    cut (", ".intercalate items).toList = items.map String.toList := by
  induction items with
  | nil => exact (some rfl).elim
  | cons item rest ih =>
      have ⟨first, others⟩ := List.forall_mem_cons.mp unseparated
      cases rest with
      | nil =>
          have whole := cut_append first []
          simpa [cut] using whole
      | cons next rest =>
          have characters : (", ".intercalate (item :: next :: rest)).toList =
              item.toList ++ ',' :: ' ' :: (", ".intercalate (next :: rest)).toList := by
            simp
          rw [characters, cut_append first, cut, ih (List.cons_ne_nil _ _) others]
          simp

end Text

/-! ## Reading -/

/-- What an excerpt tells of a payload. -/
structure Excerpt where
  representation : String
  items : List String
  /-- Whether an ellipsis follows the items. -/
  marked : Bool
deriving DecidableEq

namespace Excerpt

/-- The items between brackets. The last of them may be an ellipsis. -/
def ofItems (representation : String) (items : List String) : Excerpt :=
  if items.getLast? = some "..." then ⟨representation, items.dropLast, true⟩
  else ⟨representation, items, false⟩

/-- Reads the text of an excerpt. -/
def read? (text : String) : Option Excerpt :=
  let representation := String.ofList (text.toList.takeWhile (· != '('))
  match text.toList.dropWhile (· != '(') with
  | '(' :: '[' :: rest =>
    match rest.reverse with
    | [')', ']'] => some (ofItems representation [])
    | ')' :: ']' :: inner =>
      some (ofItems representation ((Text.cut inner.reverse).map String.ofList))
    | _ => none
  | _ => none

/-- What is read of an excerpt are its items, when they stand out from what is set around
them. -/
theorem read?_bracketed {representation : String} (named : '(' ∉ representation.toList)
    {items : List String} (unseparated : ∀ item ∈ items, ',' ∉ item.toList)
    (written : ∀ item ∈ items, item.toList ≠ []) :
    read? (representation ++ "(" ++ Text.bracketed items ++ ")") =
      some (ofItems representation items) := by
  let inner := (", ".intercalate items).toList
  have characters : (representation ++ "(" ++ Text.bracketed items ++ ")").toList =
      representation.toList ++ '(' :: '[' :: (inner ++ [']', ')']) := by
    simp [Text.bracketed, inner]
  have before : ∀ c ∈ representation.toList, (c != '(') = true := by
    intro c member
    refine bne_iff_ne.mpr ?_
    rintro rfl
    exact named member
  have opened : ∀ rest : List Char, ('(' :: rest).takeWhile (· != '(') = [] ∧
      ('(' :: rest).dropWhile (· != '(') = '(' :: rest := fun _ => ⟨rfl, rfl⟩
  have closed : (inner ++ [']', ')']).reverse = ')' :: ']' :: inner.reverse := by simp
  rw [read?, characters, List.takeWhile_append_of_pos before, List.dropWhile_append_of_pos before,
    (opened _).1, (opened _).2, List.append_nil, String.ofList_toList]
  simp only [closed]
  cases items with
  | nil => rfl
  | cons item rest =>
      have parts : Text.cut inner = (item :: rest).map String.toList :=
        Text.cut_intercalate (List.cons_ne_nil _ _) unseparated
      have back : ((item :: rest).map String.toList).map String.ofList = item :: rest := by
        simp [Function.comp_def]
      cases reversed : inner.reverse with
      | nil =>
          have nothing : inner = [] := List.reverse_eq_nil_iff.mp reversed
          rw [nothing] at parts
          have first : item.toList = [] := (List.cons.inj parts).1.symm
          exact (written item List.mem_cons_self first).elim
      | cons last others =>
          simp only
          rw [← reversed, List.reverse_reverse, parts, back]

end Excerpt

namespace Payload

/-! ## Where excerpts stop -/

/-- From an index within the limit on, items are shown up to the limit. The ellipsis follows
when they reach it. -/
theorem excerptItemsFrom_eq {index : Nat} (within : index < excerptLimit) (items : List String) :
    excerptItemsFrom index items = items.take (excerptLimit - index) ++
      if excerptLimit ≤ index + items.length then ["..."] else [] := by
  induction items generalizing index with
  | nil => simp [excerptItemsFrom, within]
  | cons item rest ih =>
      obtain ⟨places, room⟩ : ∃ places, excerptLimit - index = places + 1 :=
        Nat.exists_eq_succ_of_ne_zero (Nat.sub_ne_zero_of_lt within)
      rw [excerptItemsFrom, room, List.take_succ_cons, List.cons_append, List.length_cons]
      split
      next more =>
        have following : excerptLimit - (index + 1) = places := by omega
        have reached : index + 1 + rest.length = index + (rest.length + 1) := by omega
        rw [ih more, following, reached]
      next last =>
        have none : places = 0 := by omega
        have reached : excerptLimit ≤ index + (rest.length + 1) := by omega
        rw [none, if_pos reached, List.take_zero, List.nil_append]

theorem excerptItems_eq (items : List String) :
    excerptItems items = items.take excerptLimit ++
      if excerptLimit ≤ items.length then ["..."] else [] := by
  rw [excerptItems, excerptItemsFrom_eq (by decide), Nat.sub_zero, Nat.zero_add]

/-- The ellipsis is set apart like an item. -/
theorem bracketed_excerptItems (items : List String) :
    Text.bracketed (excerptItems items) =
      "[" ++ ", ".intercalate (items.take excerptLimit) ++
        (if excerptLimit ≤ items.length then ", ..." else "") ++ "]" := by
  rw [excerptItems_eq, Text.bracketed]
  split
  next long =>
    have some : items.take excerptLimit ≠ [] := by
      intro none
      have lengths := congrArg List.length none
      rw [List.length_take, Nat.min_eq_left long] at lengths
      cases lengths
    rw [String.intercalate_append_of_ne_nil some (List.cons_ne_nil _ _),
      String.intercalate_singleton]
    simp [String.append_assoc]
  next => rw [List.append_nil, String.append_empty]

theorem ofItems_excerptItems (representation : String) {items : List String}
    (plain : ∀ item ∈ items, item ≠ "...") :
    Excerpt.ofItems representation (excerptItems items) =
      ⟨representation, items.take excerptLimit, decide (excerptLimit ≤ items.length)⟩ := by
  rw [excerptItems_eq, Excerpt.ofItems]
  by_cases long : excerptLimit ≤ items.length
  · simp [long]
  · have unmarked : (items.take excerptLimit).getLast? ≠ some "..." := by
      intro last
      exact plain _ (List.mem_of_mem_take (List.mem_of_getLast? last)) rfl
    simp [long, unmarked]

theorem length_items (payload : Payload) : payload.items.length = payload.length := by
  rw [items_eq, List.length_map, length_scalars]

/--
An excerpt shows the elements of a payload from the first on, in order and set apart by a comma
and a blank, up to the seventh, and ends with an ellipsis if there are seven or more.  So the
ellipsis tells whether elements were left out exactly if there are not just seven.  Of numbers
and truth values, the texts that are shown and the ellipsis are read back from the excerpt.
-/
theorem excerpts_shown (payload : Payload) :
    let shown := payload.scalars.take excerptLimit
    let left := payload.scalars.drop excerptLimit
    payload.excerpt = payload.representation ++ "([" ++
        ", ".intercalate (shown.map Scalar.text) ++
        (if excerptLimit ≤ payload.length then ", ..." else "") ++ "])" ∧
    ((excerptLimit ≤ payload.length ↔ left ≠ []) ↔ payload.length ≠ excerptLimit) ∧
    (payload.isText = false →
      Excerpt.read? payload.excerpt = some
        { representation := payload.representation
          items := shown.map Scalar.text
          marked := decide (excerptLimit ≤ payload.length) }) := by
  intro shown left
  have items : payload.items.take excerptLimit = shown.map Scalar.text := by
    rw [items_eq, List.map_take]
  refine ⟨?_, ?_, fun numeric => ?_⟩
  · rw [excerpt, bracketed_excerptItems, items, length_items]
    exact String.toList_inj.mp (by simp)
  · have some : left ≠ [] ↔ excerptLimit < payload.length := by
      rw [ne_eq, List.drop_eq_nil_iff, length_scalars, Nat.not_le]
    rw [some]
    omega
  · have separable := payload.separable_items numeric
    have named : '(' ∉ payload.representation.toList := by
      cases payload <;> simp [representation]
    have listed : ∀ item ∈ excerptItems payload.items,
        ',' ∉ item.toList ∧ item.toList ≠ [] := by
      rw [excerptItems_eq]
      refine List.forall_mem_append.mpr ⟨fun item member => ?_, ?_⟩
      · have one := separable item (List.mem_of_mem_take member)
        exact ⟨one.unseparated, one.ne_nil⟩
      · split <;> decide
    rw [excerpt, Excerpt.read?_bracketed named (fun item member => (listed item member).1)
      fun item member => (listed item member).2,
      ofItems_excerptItems _ fun item member => (separable item member).ne_ellipsis,
      items, length_items]

/-- Eight numbers, the last of which is left out. -/
theorem excerpts_shown_of_eight :
    (int64 [0, -1, 2, -3, 4, -5, 6, 7]).isText = false ∧
    Excerpt.read? (int64 [0, -1, 2, -3, 4, -5, 6, 7]).excerpt =
      some ⟨"Int64", ["0", "-1", "2", "-3", "4", "-5", "6"], true⟩ := by
  have ⟨_, _, read⟩ := excerpts_shown (int64 [0, -1, 2, -3, 4, -5, 6, 7])
  exact ⟨rfl, (read rfl).trans (by decide +kernel)⟩

/-- The excerpt of seven numbers shows all of them, and ends with an ellipsis. -/
theorem seven_elements_marked :
    (int64 [0, 1, 2, 3, 4, 5, 6]).excerpt = "Int64([0, 1, 2, 3, 4, 5, 6, ...])" ∧
    (int64 [0, 1, 2, 3, 4, 5]).excerpt = "Int64([0, 1, 2, 3, 4, 5])" := by
  decide +kernel

end Payload

end OnnxForge

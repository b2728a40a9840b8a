import OnnxForge.Proofs.Binding.Names
import OnnxForge.Proofs.Network.Identifiers

/-!
# Names of parameters

Parameters are named one after the other. A name is made clear of the keywords, then of the
names taken before it by an underscore, and then by numbers, the first of which that gives a free
name is taken. Such a number is no larger than the number of names taken, so the search ends. An
identifier stays one through all of that, and no step leads to a keyword: keywords end neither in
an underscore nor in a digit.
-/

namespace OnnxForge.Text

theorem isIdentifierContinue_underscore : isIdentifierContinue '_' = true := by
  decide

theorem isIdentifierContinue_of_isDigit {c : Char} (digit : c.isDigit = true) :
    isIdentifierContinue c = true := by
  have codes : ∀ code < 58, 48 ≤ code → CharRun.member Table.identifierContinue code = true := by
    decide
  rw [Char.isDigit, Bool.and_eq_true, decide_eq_true_iff, decide_eq_true_iff] at digit
  have low : 48 ≤ c.toNat := UInt32.le_iff_toNat_le.mp digit.1
  have high : c.toNat ≤ 57 := UInt32.le_iff_toNat_le.mp digit.2
  exact codes c.toNat (Nat.lt_succ_of_le high) low

end OnnxForge.Text

namespace OnnxForge.Source

/-- An identifier may go on with characters that continue identifiers. -/
theorem isIdentifier_append {text more : String} (identifier : isIdentifier text = true)
    (continued : ∀ c ∈ more.toList, Text.isIdentifierContinue c = true) :
    isIdentifier (text ++ more) = true := by
  rw [isIdentifier] at identifier ⊢
  rw [String.toList_append]
  cases characters : text.toList with
  | nil => simp [characters] at identifier
  | cons first rest =>
      rw [characters] at identifier
      obtain ⟨started, others⟩ := Bool.and_eq_true_iff.mp identifier
      rw [List.cons_append]
      refine Bool.and_eq_true_iff.mpr ⟨started, ?_⟩
      rw [List.all_append, others, Bool.true_and]
      exact List.all_eq_true.mpr continued

end OnnxForge.Source

namespace OnnxForge.Binding

open Source

/-! ## Keywords -/

theorem keyword_digitless : ∀ name ∈ keywords, name.toList.any Char.isDigit = false := by
  decide

theorem underscored_notMem_keywords (name : String) : name ++ "_" ∉ keywords := fun member =>
  (keyword_ended _ member).ne_append name rfl

theorem escape_notMem_keywords (name : String) : escape name ∉ keywords := by
  rw [escape]
  split
  · exact underscored_notMem_keywords name
  next other => exact fun member => other (List.contains_iff_mem.mpr member)

/-! ## Candidates -/

/-- What the candidates for an input begin with, when some names are taken. -/
def stem (taken : List String) (input : String) : String :=
  if taken.contains (escape (snakeCase input)) then escape (snakeCase input) ++ "_"
  else escape (snakeCase input)

theorem stem_notMem_keywords (taken : List String) (input : String) :
    stem taken input ∉ keywords := by
  rw [stem]
  split
  · exact underscored_notMem_keywords _
  · exact escape_notMem_keywords _

/-- A word without digits is a candidate only as what the candidates begin with. -/
theorem numbered_eq_iff {name word : String} {index : Nat}
    (digitless : word.toList.any Char.isDigit = false) :
    numbered name index = word ↔ index = 0 ∧ name = word := by
  rw [numbered]
  split
  next first => exact (and_iff_right first).symm
  next later =>
    refine ⟨?_, fun both => (later both.1).elim⟩
    rintro rfl
    rcases Text.exists_digit_natural index with ⟨c, present, digit⟩
    have letters := List.any_eq_false.mp digitless
    exact (letters c (by simp [present]) digit).elim

theorem numbered_notMem_keywords {name : String} (other : name ∉ keywords) (index : Nat) :
    numbered name index ∉ keywords := by
  intro member
  have same := ((numbered_eq_iff (keyword_digitless _ member)).mp rfl).2
  exact other (same ▸ member)

theorem numbered_injective (name : String) : Function.Injective (numbered name) :=
  injective_continued Text.natural_ne_empty fun _ _ same => Text.natural_injective same

/-! ## Identifiers -/

theorem isIdentifier_underscored {name : String} (identifier : isIdentifier name = true) :
    isIdentifier (name ++ "_") = true :=
  isIdentifier_append identifier (by simp [Text.isIdentifierContinue_underscore])

theorem isIdentifier_escape {name : String} (identifier : isIdentifier name = true) :
    isIdentifier (escape name) = true := by
  rw [escape]
  split
  · exact isIdentifier_underscored identifier
  · exact identifier

theorem isIdentifier_stem (taken : List String) {input : String}
    (identifier : isIdentifier (snakeCase input) = true) :
    isIdentifier (stem taken input) = true := by
  rw [stem]
  split
  · exact isIdentifier_underscored (isIdentifier_escape identifier)
  · exact isIdentifier_escape identifier

theorem isIdentifier_numbered {name : String} (identifier : isIdentifier name = true)
    (index : Nat) : isIdentifier (numbered name index) = true := by
  rw [numbered]
  split
  · exact identifier
  · exact isIdentifier_append identifier fun c member =>
      Text.isIdentifierContinue_of_isDigit (Text.isDigit_of_mem_natural member)

/-! ## One parameter -/

/-- How a parameter is named for an input when some names are taken: the candidates are tried in
order, and the first that is free is the one with the given number. -/
structure Names (taken : List String) (input name : String) (number : Nat) : Prop where
  found : name = numbered (stem taken input) number
  free : name ∉ taken
  passed : ∀ earlier < number, numbered (stem taken input) earlier ∈ taken

theorem exists_names (taken : List String) (input : String) :
    ∃ number ≤ taken.length, Names taken input (parameterName taken input) number := by
  have injective := numbered_injective (stem taken input)
  rcases @exists_firstFree taken _ injective with ⟨number, within, found, _, passed⟩
  exact ⟨number, within, found, firstFree_notMem injective, passed⟩

namespace Names

variable {taken : List String} {input name : String} {number : Nat}

theorem notMem_keywords (names : Names taken input name number) : name ∉ keywords :=
  names.found ▸ numbered_notMem_keywords (stem_notMem_keywords taken input) number

theorem isIdentifier (names : Names taken input name number)
    (identifier : Source.isIdentifier (snakeCase input) = true) :
    Source.isIdentifier name = true :=
  names.found ▸ isIdentifier_numbered (isIdentifier_stem taken identifier) number

end Names

/-! ## Parameters in a row -/

/-- Each parameter is named when the names before it are taken. -/
theorem getElem?_parameterNamesFrom (taken inputs : List String) (index : Nat) :
    (parameterNamesFrom taken inputs)[index]? =
      inputs[index]?.map
        (parameterName (taken ++ (parameterNamesFrom taken inputs).take index)) := by
  induction inputs generalizing taken index with
  | nil => rfl
  | cons input rest ih =>
      rw [parameterNamesFrom]
      cases index with
      | zero => simp
      | succ index => simp [ih]

/-- Names stay clear of those taken and of each other. -/
theorem nodup_append_parameterNamesFrom {taken : List String} (distinct : taken.Nodup)
    (inputs : List String) : (taken ++ parameterNamesFrom taken inputs).Nodup := by
  induction inputs generalizing taken with
  | nil => simpa [parameterNamesFrom] using distinct
  | cons input rest ih =>
      rw [parameterNamesFrom, List.append_cons]
      rcases exists_names taken input with ⟨_, _, names⟩
      exact ih (List.concat_eq_append ▸ distinct.concat names.free)

/--
Parameters are named for any inputs whose snake case forms are identifiers.  Every input has one
parameter at its own place, whose name is again an identifier, no keyword and none of the locals,
and no two parameters have one name.  The name is the first candidate of the input that is free
of the locals and of the earlier parameters, and its number is at most the number of these.
-/
theorem parameters_told_apart (inputs : List String)
    (identifiers : ∀ input ∈ inputs, isIdentifier (snakeCase input) = true) :
    let names := parameterNames inputs
    names.length = inputs.length ∧
    names.Nodup ∧
    (∀ name ∈ names, isIdentifier name = true ∧ name ∉ locals ∧ name ∉ keywords) ∧
    ∀ index input, inputs[index]? = some input →
      ∃ name, names[index]? = some name ∧
        ∃ number ≤ locals.length + index,
          Names (locals ++ names.take index) input name number := by
  intro names
  have clear := nodup_append_parameterNamesFrom (by decide : locals.Nodup) inputs
  have ⟨_, distinct, disjoint⟩ := List.nodup_append.mp clear
  have length : names.length = inputs.length := length_parameterNamesFrom locals inputs
  have each : ∀ index input, inputs[index]? = some input →
      ∃ name, names[index]? = some name ∧
        ∃ number ≤ locals.length + index,
          Names (locals ++ names.take index) input name number := by
    intro index input present
    rcases exists_names (locals ++ names.take index) input with ⟨number, within, named⟩
    refine ⟨_, ?_, number, ?_, named⟩
    · exact (getElem?_parameterNamesFrom locals inputs index).trans (by rw [present]; rfl)
    · rw [List.length_append, List.length_take] at within
      exact Nat.le_trans within (Nat.add_le_add_left (Nat.min_le_left _ _) _)
  refine ⟨length, distinct, fun name member => ?_, each⟩
  rcases List.mem_iff_getElem?.mp member with ⟨index, isName⟩
  have below : index < inputs.length :=
    length ▸ (List.getElem?_eq_some_iff.mp isName).1
  have present := List.getElem?_eq_getElem below
  rcases each index _ present with ⟨other, isOther, number, _, named⟩
  cases isName.symm.trans isOther
  exact ⟨named.isIdentifier (identifiers _ (List.getElem_mem below)),
    fun isLocal => disjoint _ isLocal _ member rfl, named.notMem_keywords⟩

/-- Inputs that ask for a local, for a keyword, for one name twice, and for names that are made
for others of them, with the names of their parameters. -/
def lookAlikes : List (String × String) :=
  [("inputs", "inputs_"), ("Inputs", "inputs_1"), ("inputs_1", "inputs_1_"), ("Type", "type_"),
    ("type", "type__"), ("type__", "type__1"), ("X", "x")]

theorem parameters_told_apart_of_lookAlikes :
    (∀ input ∈ lookAlikes.map Prod.fst, isIdentifier (snakeCase input) = true) ∧
    parameterNames (lookAlikes.map Prod.fst) = lookAlikes.map Prod.snd ∧
    (lookAlikes.map Prod.snd).Nodup ∧
    (isIdentifier "type__1" = true ∧ "type__1" ∉ locals ∧ "type__1" ∉ keywords) ∧
    ∃ number ≤ 10, Names (locals ++ ["inputs_", "inputs_1", "inputs_1_", "type_", "type__"])
      "type__" "type__1" number := by
  have identifiers : ∀ input ∈ lookAlikes.map Prod.fst,
      isIdentifier (snakeCase input) = true := by
    decide +kernel
  have names : parameterNames (lookAlikes.map Prod.fst) = lookAlikes.map Prod.snd := by
    decide +kernel
  have ⟨_, distinct, clear, each⟩ := parameters_told_apart _ identifiers
  rw [names] at distinct clear each
  rcases each 5 "type__" rfl with ⟨name, isName, number, within, named⟩
  cases isName
  exact ⟨identifiers, names, distinct, clear "type__1" (by decide), number, within, named⟩

end OnnxForge.Binding

import OnnxForge.Binding.Files
import OnnxForge.Proofs.Binding.Parameters
import OnnxForge.Proofs.Network.Naming

/-!
# Names that code can use

A function or a parameter can be given a name and be used by it when the name is spelled with
lower case letters, digits and underscores, does not begin with a digit, is more than an
underscore and no word of the language. Operators, domains and inputs with ASCII names get
names that are spelled so. They cannot be used only where nothing but an underscore is left
of the name, or where its snake case form is one of the words that are not escaped, and then
only by functions of the default domain and by the first parameter of that form.
-/

namespace OnnxForge.Text

/-- A text of ASCII characters. -/
def Ascii (text : String) : Prop :=
  ∀ c ∈ text.toList, c.toNat < 128

instance (text : String) : Decidable (Ascii text) :=
  List.decidableBAll (fun c : Char => c.toNat < 128) text.toList

/-- What holds of each of the first 128 characters holds of an ASCII character. -/
theorem of_ascii {P : Char → Prop} (each : ∀ code < 128, P (Char.ofNat code)) {c : Char}
    (ascii : c.toNat < 128) : P c :=
  Char.ofNat_toNat c ▸ each c.toNat ascii

theorem isAlphanumeric_of_ascii {c : Char} (ascii : c.toNat < 128) :
    isAlphanumeric c = c.isAlphanum :=
  of_ascii (P := fun c => isAlphanumeric c = c.isAlphanum) (by decide +kernel) ascii

theorem lowerForm_of_ascii {c : Char} (ascii : c.toNat < 128) :
    lowerForm c = [c.toLower] :=
  of_ascii (P := fun c => lowerForm c = [c.toLower]) (by decide +kernel) ascii

open Network.Identifier (Plain)

theorem Plain.ascii {c : Char} (plain : Plain c) : c.toNat < 128 := by
  rcases plain with lower | digit | rfl
  · have high := decide_eq_true_iff.mp (Bool.and_eq_true_iff.mp lower).2
    exact Nat.lt_of_le_of_lt (UInt32.le_iff_toNat_le.mp high) (by decide)
  · have high := decide_eq_true_iff.mp (Bool.and_eq_true_iff.mp digit).2
    exact Nat.lt_of_le_of_lt (UInt32.le_iff_toNat_le.mp high) (by decide)
  · decide

theorem isIdentifierContinue_of_plain {c : Char} (plain : Plain c) :
    isIdentifierContinue c = true :=
  of_ascii (P := fun c => Plain c → isIdentifierContinue c = true) (by decide +kernel)
    (Plain.ascii plain) plain

theorem isIdentifierStart_of_isLower {c : Char} (lower : c.isLower = true) :
    isIdentifierStart c = true :=
  of_ascii (P := fun c => c.isLower = true → isIdentifierStart c = true) (by decide +kernel)
    (Plain.ascii (.inl lower)) lower

end OnnxForge.Text

namespace OnnxForge.Source

open Network.Identifier (Plain)

/-! ## Words of the language -/

/-- The words that have a meaning of their own everywhere in the language. -/
def strictWords : List String :=
  ["as", "async", "await", "break", "const", "continue", "crate", "dyn", "else", "enum",
    "extern", "false", "fn", "for", "if", "impl", "in", "let", "loop", "match", "mod", "move",
    "mut", "pub", "ref", "return", "self", "Self", "static", "struct", "super", "trait", "true",
    "type", "unsafe", "use", "where", "while"]

/-- The words that the language keeps for later. -/
def keptWords : List String :=
  ["abstract", "become", "box", "do", "final", "gen", "macro", "override", "priv", "try",
    "typeof", "unsized", "virtual", "yield"]

/-- A text of lower case letters, digits and underscores that does not begin with a digit. -/
structure Spelled (text : String) : Prop where
  led : ∃ first rest, text.toList = first :: rest ∧ (first.isLower = true ∨ first = '_')
  plain : ∀ c ∈ text.toList, Plain c

/-- A name that code can give to a function or a parameter, and call it by. -/
structure Usable (name : String) : Prop extends Spelled name where
  notBlank : name ≠ "_"
  free : name ∉ strictWords ++ keptWords

namespace Spelled

variable {text : String}

theorem ne_empty (spelled : Spelled text) : text ≠ "" := by
  rcases spelled.led with ⟨first, rest, characters, _⟩
  rintro rfl
  cases characters

theorem isIdentifier (spelled : Spelled text) : Source.isIdentifier text = true := by
  rcases spelled.led with ⟨first, rest, characters, start⟩
  have plain := spelled.plain
  rw [characters] at plain
  rcases List.forall_mem_cons.mp plain with ⟨plainFirst, plainRest⟩
  rw [Source.isIdentifier, characters]
  refine Bool.and_eq_true_iff.mpr ⟨?_, List.all_eq_true.mpr fun c member => ?_⟩
  · rcases start with lower | rfl
    · exact Bool.or_eq_true_iff.mpr (.inr (Text.isIdentifierStart_of_isLower lower))
    · rfl
  · exact Text.isIdentifierContinue_of_plain (plainRest c member)

theorem append (spelled : Spelled text) {more : String} (plain : ∀ c ∈ more.toList, Plain c) :
    Spelled (text ++ more) := by
  rcases spelled.led with ⟨first, rest, characters, start⟩
  refine ⟨⟨first, rest ++ more.toList, by simp [characters], start⟩, ?_⟩
  rw [String.toList_append]
  exact List.forall_mem_append.mpr ⟨spelled.plain, plain⟩

theorem underscored (spelled : Spelled text) : Spelled (text ++ "_") :=
  spelled.append (List.forall_mem_singleton.mpr (.inr (.inr rfl)))

end Spelled

end OnnxForge.Source

namespace OnnxForge.Binding

open Source Text
open Network.Identifier (Plain plain_toLower isLower_or_isDigit_toLower)

/-! ## Snake case of ASCII names -/

theorem plain_snakeChars {cs : List Char} (ascii : ∀ c ∈ cs, c.toNat < 128)
    (previous : Option Char) (underscored : Bool) :
    ∀ c ∈ snakeChars previous underscored cs, Plain c := by
  have underscore : ∀ c ∈ ['_'], Plain c := List.forall_mem_singleton.mpr (.inr (.inr rfl))
  induction cs generalizing previous underscored with
  | nil => exact List.forall_mem_nil _
  | cons first rest ih =>
      rcases List.forall_mem_cons.mp ascii with ⟨asciiFirst, asciiRest⟩
      rw [snakeChars]
      split
      next kept =>
        rw [isAlphanumeric_of_ascii asciiFirst] at kept
        rw [lowerForm_of_ascii asciiFirst]
        refine List.forall_mem_append.mpr ⟨List.forall_mem_append.mpr ⟨?_, ?_⟩, ih asciiRest _ _⟩
        · split
          · exact underscore
          · exact List.forall_mem_nil _
        · exact List.forall_mem_singleton.mpr (plain_toLower kept)
      next =>
        refine List.forall_mem_append.mpr ⟨?_, ih asciiRest _ _⟩
        split
        · exact List.forall_mem_nil _
        · exact underscore

theorem trimUnderscores_subset (cs : List Char) : trimUnderscores cs ⊆ cs := by
  intro c member
  have kept : c ∈ (cs.dropWhile (· == '_')).reverse :=
    List.dropWhile_subset _ (List.mem_reverse.mp member)
  exact List.dropWhile_subset _ (List.mem_reverse.mp kept)

/-- What is left between underscores does not begin with one. -/
theorem trimUnderscores_head {cs rest : List Char} {first : Char}
    (trimmed : trimUnderscores cs = first :: rest) : first ≠ '_' := by
  have before : trimUnderscores cs <+: cs.dropWhile (· == '_') := List.rdropWhile_prefix _ _
  rcases before with ⟨others, whole⟩
  rw [trimmed] at whole
  have head := List.head?_dropWhile_not (· == '_') cs
  rw [← whole] at head
  simpa using head

/-- The snake case form of an ASCII name is spelled like a name. -/
theorem spelled_snakeCase {name : String} (ascii : Ascii name) : Spelled (snakeCase name) := by
  have plain : ∀ c ∈ trimUnderscores (snakeChars none false name.toList), Plain c :=
    fun c member => plain_snakeChars ascii none false c (trimUnderscores_subset _ member)
  rw [snakeCase]
  cases trimmed : trimUnderscores (snakeChars none false name.toList) with
  | nil => exact ⟨⟨'_', [], rfl, .inr rfl⟩, List.forall_mem_singleton.mpr (.inr (.inr rfl))⟩
  | cons first rest =>
      rw [trimmed] at plain
      by_cases digit : isAsciiDigit first = true
      · simp only [digit, if_true]
        refine ⟨⟨'_', first :: rest, by simp, .inr rfl⟩, ?_⟩
        rw [String.toList_ofList]
        exact List.forall_mem_cons.mpr ⟨.inr (.inr rfl), plain⟩
      · simp only [digit]
        refine ⟨⟨first, rest, by simp, ?_⟩, by simpa using plain⟩
        rcases plain first List.mem_cons_self with lower | isDigit | underscore
        · exact .inl lower
        · exact (digit isDigit).elim
        · exact (trimUnderscores_head trimmed underscore).elim

/-- Nothing but an underscore is left of a name exactly if it has no letters and digits. -/
theorem snakeCase_eq_underscore_iff {name : String} (ascii : Ascii name) :
    snakeCase name = "_" ↔ ∀ c ∈ name.toList, c.isAlphanum = false := by
  have nothing : letters name = [] ↔ ∀ c ∈ name.toList, c.isAlphanum = false := by
    rw [letters, List.flatMap_eq_nil_iff]
    constructor
    · intro none c member
      by_contra kept
      have alphanumeric : isAlphanumeric c = true := by
        rw [isAlphanumeric_of_ascii (ascii c member)]
        simpa using kept
      have form := none c (List.mem_filter.mpr ⟨member, alphanumeric⟩)
      rw [lowerForm_of_ascii (ascii c member)] at form
      cases form
    · intro unkept c member
      rcases List.mem_filter.mp member with ⟨present, alphanumeric⟩
      rw [isAlphanumeric_of_ascii (ascii c present), unkept c present] at alphanumeric
      cases alphanumeric
  rw [← nothing, ← filter_snakeCase]
  constructor
  · intro blank
    rw [blank]
    decide
  · intro none
    rcases snakeCase_ended name with blank | ⟨start, last, characters, other⟩
    · exact blank
    · have kept : last ∈ (snakeCase name).toList.filter (· != '_') :=
        List.mem_filter.mpr ⟨by simp [characters], bne_iff_ne.mpr other⟩
      rw [none] at kept
      cases kept

/-! ## Names that are not escaped -/

/-- The names that cannot be used, though they are spelled like names and no keywords that
names avoid. -/
def overlooked : List String :=
  "_" :: unescaped

theorem overlooked_notMem_keywords : ∀ name ∈ overlooked, name ∉ keywords := by
  decide

theorem overlooked_notMem_locals : ∀ name ∈ overlooked, name ∉ locals := by
  decide

theorem overlooked_digitless : ∀ name ∈ overlooked, name.toList.any Char.isDigit = false := by
  decide

theorem overlooked_cases : ∀ name ∈ overlooked, name = "_" ∨ '_' ∉ name.toList := by
  decide

theorem underscored_notMem_overlooked {name : String} (written : name ≠ "") :
    name ++ "_" ∉ overlooked := by
  intro member
  rcases overlooked_cases _ member with blank | free
  · exact written ((String.append_left_inj "_").mp blank)
  · exact free (by simp)

/-- Words that are overlooked are not escaped, and no other name is escaped to one. -/
theorem escape_eq_iff {name word : String} (written : name ≠ "") (member : word ∈ overlooked) :
    escape name = word ↔ name = word := by
  rw [escape]
  split
  next isKeyword =>
    constructor
    · rintro rfl
      exact (underscored_notMem_overlooked written member).elim
    · rintro rfl
      exact (overlooked_notMem_keywords name member (List.contains_iff_mem.mp isKeyword)).elim
  next => exact Iff.rfl

theorem escape_mem_overlooked_iff {name : String} (written : name ≠ "") :
    escape name ∈ overlooked ↔ name ∈ overlooked := by
  constructor
  · intro member
    exact (escape_eq_iff written member).mp rfl ▸ member
  · intro member
    rwa [(escape_eq_iff written member).mpr rfl]

/-- Spelled names that are no keywords can be used, up to those that are overlooked. -/
theorem usable_iff {name : String} (spelled : Spelled name) (escaped : name ∉ keywords) :
    Usable name ↔ name ∉ overlooked := by
  have words : ∀ word ∈ strictWords ++ keptWords,
      word ∈ keywords ∨ word ∈ unescaped ∨ word = "Self" := by
    decide
  have capital : ¬Spelled "Self" := fun spelled =>
    absurd (spelled.plain 'S' (by decide)) (by decide)
  have kept : ∀ word ∈ unescaped, word ∈ strictWords ++ keptWords := by decide
  constructor
  · intro usable member
    rcases List.mem_cons.mp member with blank | word
    · exact usable.notBlank blank
    · exact usable.free (kept name word)
  · intro clear
    refine ⟨spelled, fun blank => clear (List.mem_cons.mpr (.inl blank)), fun word => ?_⟩
    rcases words name word with isKeyword | overlooked | rfl
    · exact escaped isKeyword
    · exact clear (List.mem_cons_of_mem _ overlooked)
    · exact capital spelled

/-- A name without letters and digits, or one whose snake case form is a reserved word that is
not escaped. -/
def Unfit (name : String) : Prop :=
  (∀ c ∈ name.toList, c.isAlphanum = false) ∨ snakeCase name ∈ unescaped

instance (name : String) : Decidable (Unfit name) :=
  let _ := List.decidableBAll (fun c : Char => c.isAlphanum = false) name.toList
  inferInstanceAs (Decidable (_ ∨ _))

theorem snakeCase_mem_overlooked_iff {name : String} (ascii : Ascii name) :
    snakeCase name ∈ overlooked ↔ Unfit name := by
  rw [overlooked, List.mem_cons, snakeCase_eq_underscore_iff ascii, Unfit]

/-! ## Functions -/

theorem spelled_escape {name : String} (spelled : Spelled name) : Spelled (escape name) := by
  rw [escape]
  split
  · exact spelled.underscored
  · exact spelled

theorem spelled_label {operator domain : String} (asciiOperator : Ascii operator)
    (asciiDomain : Ascii domain) : Spelled (label operator domain) := by
  rw [label]
  split
  · exact spelled_snakeCase asciiOperator
  · exact (spelled_snakeCase asciiDomain).underscored.append (spelled_snakeCase asciiOperator).plain

/-- The domain in front of the name of an operator makes it usable. -/
theorem label_mem_overlooked_iff {operator domain : String} (ascii : Ascii domain) :
    label operator domain ∈ overlooked ↔
      isDefaultDomain domain = true ∧ snakeCase operator ∈ overlooked := by
  rw [label]
  split
  next isDefault => exact (and_iff_right isDefault).symm
  next other =>
    refine ⟨fun member => ?_, fun both => (other both.1).elim⟩
    have written := (spelled_snakeCase ascii).ne_empty
    rcases overlooked_cases _ member with blank | free
    · have same : snakeCase domain ++ ("_" ++ snakeCase operator) = "_" :=
        String.append_assoc ▸ blank
      have lengths := congrArg String.length same
      simp only [String.length_append] at lengths
      have nothing : (snakeCase domain).length = 0 := by omega
      exact (written (String.length_eq_zero_iff.mp nothing)).elim
    · exact (free (by simp)).elim

theorem spelled_functionName {operator domain : String} (asciiOperator : Ascii operator)
    (asciiDomain : Ascii domain) : Spelled (functionName operator domain) :=
  functionName_eq operator domain ▸ spelled_escape (spelled_label asciiOperator asciiDomain)

theorem functionName_mem_overlooked_iff {operator domain : String}
    (asciiOperator : Ascii operator) (asciiDomain : Ascii domain) :
    functionName operator domain ∈ overlooked ↔
      isDefaultDomain domain = true ∧ Unfit operator := by
  rw [functionName_eq,
    escape_mem_overlooked_iff (spelled_label asciiOperator asciiDomain).ne_empty,
    label_mem_overlooked_iff asciiDomain, snakeCase_mem_overlooked_iff asciiOperator]

/-- The functions of an operator can be called by their name, unless the operator is of the
default domain and its own name is unfit. -/
theorem usable_functionName_iff {operator domain : String} (asciiOperator : Ascii operator)
    (asciiDomain : Ascii domain) :
    Usable (functionName operator domain) ↔ ¬(isDefaultDomain domain = true ∧ Unfit operator) := by
  have escaped : functionName operator domain ∉ keywords := escape_notMem_keywords _
  rw [usable_iff (spelled_functionName asciiOperator asciiDomain) escaped,
    functionName_mem_overlooked_iff asciiOperator asciiDomain]

/-! ## Parameters -/

theorem spelled_parameterName (taken : List String) {input : String} (ascii : Ascii input) :
    Spelled (parameterName taken input) := by
  have escaped : Spelled (escape (snakeCase input)) := spelled_escape (spelled_snakeCase ascii)
  have begun : Spelled (stem taken input) := by
    rw [stem]
    split
    · exact escaped.underscored
    · exact escaped
  rcases exists_names taken input with ⟨number, _, names⟩
  rw [names.found, numbered]
  split
  · exact begun
  · exact begun.append fun c member => .inr (.inl (Text.isDigit_of_mem_natural member))

/-- What the candidates for an input begin with is an overlooked word only if it is free, and
the form of the input. -/
theorem stem_eq_iff {taken : List String} {input word : String} (ascii : Ascii input)
    (member : word ∈ overlooked) :
    stem taken input = word ↔ word ∉ taken ∧ snakeCase input = word := by
  have form := @escape_eq_iff (snakeCase input) word (spelled_snakeCase ascii).ne_empty member
  have escaped : escape (snakeCase input) ≠ "" :=
    (spelled_escape (spelled_snakeCase ascii)).ne_empty
  rw [stem, ← form]
  split
  next occupied =>
    constructor
    · rintro rfl
      exact (underscored_notMem_overlooked escaped member).elim
    · rintro ⟨free, rfl⟩
      exact (free (List.contains_iff_mem.mp occupied)).elim
  next free =>
    refine ⟨?_, And.right⟩
    rintro rfl
    exact ⟨fun occupied => free (List.contains_iff_mem.mpr occupied), rfl⟩

/-- An overlooked word becomes the name of a parameter where an input asks for it first. -/
theorem parameterName_eq_iff {taken : List String} {input word : String} (ascii : Ascii input)
    (member : word ∈ overlooked) :
    parameterName taken input = word ↔ word ∉ taken ∧ snakeCase input = word := by
  have digitless := overlooked_digitless word member
  rcases exists_names taken input with ⟨number, _, names⟩
  rw [← stem_eq_iff ascii member, names.found, numbered_eq_iff digitless]
  refine ⟨And.right, fun begun => ⟨?_, begun⟩⟩
  by_contra later
  have occupied := names.passed 0 (Nat.pos_of_ne_zero later)
  exact ((stem_eq_iff ascii member).mp begun).1 (begun ▸ occupied)

theorem spelled_parameterNamesFrom (taken : List String) {inputs : List String}
    (ascii : ∀ input ∈ inputs, Ascii input) :
    ∀ name ∈ parameterNamesFrom taken inputs, Spelled name := by
  induction inputs generalizing taken with
  | nil => exact List.forall_mem_nil _
  | cons input rest ih =>
      rcases List.forall_mem_cons.mp ascii with ⟨asciiInput, asciiRest⟩
      exact List.forall_mem_cons.mpr ⟨spelled_parameterName taken asciiInput, ih _ asciiRest⟩

theorem take_parameterNamesFrom (taken inputs : List String) (index : Nat) :
    (parameterNamesFrom taken inputs).take index =
      parameterNamesFrom taken (inputs.take index) := by
  induction inputs generalizing taken index with
  | nil => simp [parameterNamesFrom]
  | cons input rest ih =>
      cases index with
      | zero => rfl
      | succ index => simp [parameterNamesFrom, ih]

/-- An overlooked word is the name of a parameter exactly if it is free and an input asks for
it. -/
theorem mem_parameterNamesFrom_iff {taken inputs : List String} {word : String}
    (ascii : ∀ input ∈ inputs, Ascii input) (member : word ∈ overlooked) :
    word ∈ parameterNamesFrom taken inputs ↔
      word ∉ taken ∧ ∃ input ∈ inputs, snakeCase input = word := by
  induction inputs generalizing taken with
  | nil => simp [parameterNamesFrom]
  | cons input rest ih =>
      rcases List.forall_mem_cons.mp ascii with ⟨asciiInput, asciiRest⟩
      have first := @parameterName_eq_iff taken input word asciiInput member
      rw [parameterNamesFrom, List.mem_cons, ih asciiRest, List.mem_append, List.mem_singleton,
        List.exists_mem_cons_iff, @eq_comm _ word, first]
      by_cases occupied : word ∈ taken <;> by_cases form : snakeCase input = word <;>
        simp [occupied, form]

/-- The parameters of ASCII inputs are spelled like names. One cannot be used exactly if its
input is unfit, and the first of its form. -/
theorem usable_parameters {inputs : List String} (ascii : ∀ input ∈ inputs, Ascii input)
    {index : Nat} {input : String} (present : inputs[index]? = some input) :
    ∃ name, (parameterNames inputs)[index]? = some name ∧ Spelled name ∧
      (Usable name ↔
        ¬Unfit input ∨ ∃ earlier ∈ inputs.take index, snakeCase earlier = snakeCase input) := by
  let taken := locals ++ (parameterNames inputs).take index
  have asciiInput : Ascii input := ascii input (List.mem_of_getElem? present)
  have asciiBefore : ∀ earlier ∈ inputs.take index, Ascii earlier :=
    fun earlier member => ascii earlier (List.mem_of_mem_take member)
  have free : ∀ word ∈ overlooked, word ∉ taken ↔
      ¬∃ earlier ∈ inputs.take index, snakeCase earlier = word := by
    intro word member
    have notLocal := overlooked_notMem_locals word member
    rw [List.mem_append, parameterNames, take_parameterNamesFrom,
      mem_parameterNamesFrom_iff asciiBefore member]
    simp [notLocal]
  have spelled := spelled_parameterName taken asciiInput
  have escaped : parameterName taken input ∉ keywords := by
    rcases exists_names taken input with ⟨_, _, names⟩
    exact names.notMem_keywords
  refine ⟨parameterName taken input, ?_, spelled, ?_⟩
  · exact (getElem?_parameterNamesFrom locals inputs index).trans (by rw [present]; rfl)
  · rw [usable_iff spelled escaped, ← not_iff_not, not_not, not_or, not_not]
    constructor
    · intro member
      rcases (parameterName_eq_iff asciiInput member).mp rfl with ⟨untaken, form⟩
      rw [← form] at member untaken
      exact ⟨(snakeCase_mem_overlooked_iff asciiInput).mp member, (free _ member).mp untaken⟩
    · rintro ⟨unfit, first⟩
      have member := (snakeCase_mem_overlooked_iff asciiInput).mpr unfit
      have same := (parameterName_eq_iff asciiInput member).mpr ⟨(free _ member).mpr first, rfl⟩
      exact same ▸ member

end OnnxForge.Binding

import Mathlib.Data.List.DropRight
import OnnxForge.Proofs.Network.Identifiers

/-!
# Naming on request

Identifiers are asked for one after the other, for tensors and for nodes under any names. The
main statement is about all that was given: tensors, and nodes that have names, are told apart
by their identifiers and keep them, no tensor has the identifier of a node, and every one of
them is a word of lower case letters, digits and underscores that is not reserved. A number is
searched for no longer than there were requests before.
-/

namespace OnnxForge

namespace Network

/-! ## The shape of identifiers -/

namespace Identifier

/-- Whether a character may stand in an identifier. -/
def Plain (c : Char) : Prop :=
  c.isLower = true ∨ c.isDigit = true ∨ c = '_'

instance : DecidablePred Plain := fun _ => inferInstanceAs (Decidable (_ ∨ _ ∨ _))

/-- A text of plain characters, the first of which is a letter. -/
structure Word (text : String) : Prop where
  led : ∃ first rest, text.toList = first :: rest ∧ first.isLower = true
  plain : ∀ c ∈ text.toList, Plain c

/-- A word that generated code may use for a variable or a field. -/
structure Proper (identifier : String) : Prop extends Word identifier where
  unreserved : identifier ∉ reserved

theorem isAlphanum_iff {c : Char} :
    c.isAlphanum = true ↔ (c.isUpper = true ∨ c.isLower = true) ∨ c.isDigit = true := by
  change (c.isUpper || c.isLower || c.isDigit) = true ↔ _
  rw [Bool.or_eq_true, Bool.or_eq_true]

/-- The lower case form of a letter or digit is a lower case letter or a digit. -/
theorem isLower_or_isDigit_toLower {c : Char} (kept : c.isAlphanum = true) :
    c.toLower.isLower = true ∨ c.toLower.isDigit = true := by
  by_cases capital : c.val ≥ 'A'.val ∧ c.val ≤ 'Z'.val
  · left
    have lowered : c.toLower = ⟨c.val + 32, _⟩ := dif_pos capital
    have low : 65 ≤ c.val.toNat := UInt32.le_iff_toNat_le.mp capital.1
    have high : c.val.toNat ≤ 90 := UInt32.le_iff_toNat_le.mp capital.2
    have code : (c.val + 32).toNat = c.val.toNat + 32 := by
      rw [UInt32.toNat_add]
      exact Nat.mod_eq_of_lt (Nat.lt_of_le_of_lt (Nat.add_le_add_right high 32) (by decide))
    rw [lowered]
    change (decide (97 ≤ c.val + 32) && decide (c.val + 32 ≤ 122)) = true
    rw [Bool.and_eq_true, decide_eq_true_iff, decide_eq_true_iff, UInt32.le_iff_toNat_le,
      UInt32.le_iff_toNat_le, code]
    exact ⟨Nat.add_le_add_right low 32, Nat.add_le_add_right high 32⟩
  · have same : c.toLower = c := dif_neg capital
    rw [same]
    rcases isAlphanum_iff.mp kept with (upper | lower) | digit
    · exact (capital (of_decide_eq_true upper)).elim
    · exact .inl lower
    · exact .inr digit

theorem plain_toLower {c : Char} (kept : c.isAlphanum = true) : Plain c.toLower := by
  rcases isLower_or_isDigit_toLower kept with lower | digit
  · exact .inl lower
  · exact .inr (.inl digit)

theorem plain_snakeChars {previous : Option Char} {closed : Bool} {cs : List Char} :
    ∀ c ∈ snakeChars previous closed cs, Plain c := by
  have underscore : ∀ {absent : Prop} [Decidable absent], ∀ c ∈ if absent then [] else ['_'],
      Plain c := by
    intro absent _ c member
    split at member
    · cases member
    · exact .inr (.inr (List.mem_singleton.mp member))
  induction cs generalizing previous closed with
  | nil =>
      intro c member
      cases member
  | cons first rest ih =>
      rw [snakeChars]
      split
      next kept =>
        rw [← ite_not]
        exact List.forall_mem_append.mpr
          ⟨underscore, List.forall_mem_cons.mpr ⟨plain_toLower kept, ih⟩⟩
      next => exact List.forall_mem_append.mpr ⟨underscore, ih⟩

/-- A form that may not begin with an underscore does not, unless a word ended right before. -/
theorem snakeChars_ne_underscore {previous : Option Char}
    (apart : (previous.any fun before => before.isLower || before.isDigit) = false)
    (cs : List Char) :
    ∀ rest, snakeChars previous true cs ≠ '_' :: rest := by
  induction cs generalizing previous with
  | nil =>
      intro rest same
      cases same
  | cons first following ih =>
      intro rest
      rw [snakeChars]
      split
      next kept =>
        rw [beginsWord, apart, Bool.and_false, if_neg Bool.false_ne_true, List.nil_append]
        intro same
        have letter := isLower_or_isDigit_toLower kept
        rw [(List.cons.inj same).1] at letter
        exact absurd letter (by decide)
      next other =>
        rw [if_pos rfl, List.nil_append]
        refine ih ?_ rest
        rw [isAlphanum_iff] at other
        rw [Option.any_some, Bool.or_eq_false_iff]
        exact ⟨Bool.eq_false_iff.mpr fun lower => other (.inl (.inr lower)),
          Bool.eq_false_iff.mpr fun digit => other (.inr digit)⟩

theorem trimEnd_prefix (cs : List Char) : trimEnd cs <+: cs :=
  List.rdropWhile_prefix _ cs

/-- Plain characters become a word when they do not begin with an underscore. -/
theorem word_ledByLetter {cs : List Char} (plain : ∀ c ∈ cs, Plain c)
    (started : ∀ rest, cs ≠ '_' :: rest) :
    Word (String.ofList (ledByLetter cs)) := by
  cases cs with
  | nil =>
      have all : (String.ofList (ledByLetter [])).toList.all (fun c => decide (Plain c)) = true := by
        decide +kernel
      exact ⟨⟨'t', "ensor".toList, rfl, rfl⟩,
        fun c member => of_decide_eq_true (List.all_eq_true.mp all c member)⟩
  | cons first rest =>
      change Word (String.ofList
        (if first.isDigit then 't' :: '_' :: first :: rest else first :: rest))
      split
      next digit =>
        refine ⟨⟨'t', '_' :: first :: rest, by simp, rfl⟩, ?_⟩
        rw [String.toList_ofList]
        exact List.forall_mem_cons.mpr ⟨.inl rfl, List.forall_mem_cons.mpr ⟨.inr (.inr rfl), plain⟩⟩
      next other =>
        have lower : first.isLower = true := by
          rcases plain first List.mem_cons_self with lower | digit | rfl
          · exact lower
          · exact (other digit).elim
          · exact (started rest rfl).elim
        exact ⟨⟨first, rest, by simp, lower⟩, by simpa using plain⟩

theorem Word.append {text more : String} (word : Word text) (plain : ∀ c ∈ more.toList, Plain c) :
    Word (text ++ more) := by
  rcases word.led with ⟨first, rest, characters, lower⟩
  refine ⟨⟨first, rest ++ more.toList, by simp [characters], lower⟩, ?_⟩
  rw [String.toList_append]
  exact List.forall_mem_append.mpr ⟨word.plain, plain⟩

theorem reserved_plain : ∀ word ∈ reserved, '_' ∉ word.toList := by
  decide +kernel

theorem proper_of_underscore {text : String} (word : Word text) (member : '_' ∈ text.toList) :
    Proper text :=
  ⟨word, fun isReserved => reserved_plain text isReserved member⟩

/-- Whatever a name is, it asks for a word that is not reserved. -/
theorem proper_ofName (name : String) : Proper (ofName name) := by
  have trimmed := trimEnd_prefix (snakeChars none true name.toList)
  have word : Word (String.ofList (ledByLetter (trimEnd (snakeChars none true name.toList)))) := by
    refine word_ledByLetter (fun c member => plain_snakeChars c (trimmed.mem member)) ?_
    intro rest same
    rcases trimmed with ⟨others, whole⟩
    rw [same] at whole
    exact snakeChars_ne_underscore rfl name.toList _ whole.symm
  rw [ofName]
  split
  · exact proper_of_underscore (word.append (by simp [Plain])) (by simp)
  next free => exact ⟨word, fun isReserved => free (List.contains_iff_mem.mpr isReserved)⟩

theorem proper_numbered (name : String) (index : Nat) : Proper (numbered (ofName name) index) := by
  rw [numbered]
  split
  · exact proper_ofName name
  · have started : Word (ofName name ++ "_") := (proper_ofName name).toWord.append (by simp [Plain])
    exact proper_of_underscore
      (started.append fun c member => .inr (.inl (Text.isDigit_of_mem_natural member))) (by simp)

end Identifier

namespace Naming

open Identifier

variable {naming before after : Naming}

/-! ## Single requests -/

/-- A request for the identifier of a tensor or of a node. -/
inductive Request
  | tensor (name : String)
  | node (name operator : String)
deriving DecidableEq

/-- The answer to a request, and the naming after it. -/
def answer (naming : Naming) : Request → String × Naming
  | .tensor name => naming.tensor name
  | .node name operator => naming.node name operator

/-- Whether a request is for the identifier of a holder. A node without a name goes by one that
is found for it. -/
def Request.IsFor : Request → Holder → Prop
  | .tensor name, .tensor own => name = own
  | .node name _, .node key => name = "" ∨ name = key
  | _, _ => False

theorem claims_node (naming : Naming) (name operator : String) :
    naming.Claims (naming.node name operator).2 := by
  rw [node]
  split
  · let number := (naming.unnamed.get? operator).getD 0 + 1
    let counted : Naming := { naming with unnamed := naming.unnamed.insert operator number }
    cases counted.claims_key (operator ++ Text.natural number) with
    | none same => exact .none same
    | fresh name more => exact .fresh name more
  · exact naming.claims_key name

theorem claims_answer (naming : Naming) (request : Request) :
    naming.Claims (naming.answer request).2 := by
  cases request with
  | tensor name => exact naming.claims_tensor name
  | node name operator => exact naming.claims_node name operator

theorem grows_answer (naming : Naming) (request : Request) :
    naming.Grows (naming.answer request).2 := by
  cases request with
  | tensor name => exact naming.grows_tensor name
  | node name operator => exact naming.grows_node name operator

/-- What is answered is the identifier of what was asked for. -/
theorem held_answer (naming : Naming) (request : Request) :
    ∃ holder, request.IsFor holder ∧
      (naming.answer request).2.held? holder = some (naming.answer request).1 := by
  cases request with
  | tensor name => exact ⟨.tensor name, rfl, naming.get?_tensor name⟩
  | node name operator =>
      rw [answer, node]
      split
      next unnamed => exact ⟨.node _, .inl unnamed, get?_key _ _⟩
      next => exact ⟨.node name, .inr rfl, naming.get?_key name⟩

/-- How the identifier for a new name is found: the candidates are tried in order, and the
first that is free is the one with the given number. -/
structure Finds (naming : Naming) (name : String) (index : Nat) : Prop where
  found : naming.fresh name = numbered (ofName name) index
  free : numbered (ofName name) index ∉ naming.taken
  passed : ∀ earlier < index, numbered (ofName name) earlier ∈ naming.taken

theorem exists_finds (naming : Naming) (name : String) :
    ∃ index ≤ naming.taken.length, naming.Finds name index := by
  have search : ∃ index ≤ naming.taken.length, _ :=
    Source.exists_firstFree (numbered_injective (ofName name))
  rcases search with ⟨index, within, found, free, passed⟩
  exact ⟨index, within, found, free, passed⟩

theorem Claims.proper (claims : Claims before after)
    (proper : ∀ identifier ∈ before.taken, Proper identifier) :
    ∀ identifier ∈ after.taken, Proper identifier := by
  cases claims with
  | none same => rwa [same]
  | fresh name more =>
      intro identifier member
      rcases List.mem_cons.mp (more.mem_iff.mp member) with rfl | earlier
      · rcases before.exists_finds name with ⟨index, _, finds⟩
        exact finds.found ▸ proper_numbered name index
      · exact proper identifier earlier

/-! ## Requests in a row -/

/-- The naming after requests. -/
def afterAll (naming : Naming) (requests : List Request) : Naming :=
  requests.foldl (fun naming request => (naming.answer request).2) naming

/-- Requests with their answers, one after the other. -/
def answered (naming : Naming) : List Request → List (Request × String)
  | [] => []
  | request :: rest =>
    (request, (naming.answer request).1) :: (naming.answer request).2.answered rest

theorem afterAll_cons (naming : Naming) (request : Request) (rest : List Request) :
    naming.afterAll (request :: rest) = (naming.answer request).2.afterAll rest :=
  rfl

theorem map_fst_answered (naming : Naming) (requests : List Request) :
    (naming.answered requests).map Prod.fst = requests := by
  induction requests generalizing naming with
  | nil => rfl
  | cons request rest ih => rw [answered, List.map_cons, ih]

theorem grows_afterAll (naming : Naming) (requests : List Request) :
    naming.Grows (naming.afterAll requests) := by
  induction requests generalizing naming with
  | nil => exact .refl naming
  | cons request rest ih => exact (naming.grows_answer request).trans (ih _)

/-- Every answer is the identifier of what was asked for, to the end. -/
theorem held_answered (naming : Naming) (requests : List Request) :
    ∀ given ∈ naming.answered requests, ∃ holder, given.1.IsFor holder ∧
      (naming.afterAll requests).held? holder = some given.2 := by
  induction requests generalizing naming with
  | nil =>
      intro given member
      cases member
  | cons request rest ih =>
      rw [answered, afterAll_cons]
      refine List.forall_mem_cons.mpr ⟨?_, ih _⟩
      rcases naming.held_answer request with ⟨holder, isFor, held⟩
      exact ⟨holder, isFor, (grows_afterAll _ rest).held held⟩

theorem held_tensor {requests : List Request} {name identifier : String}
    (member : (.tensor name, identifier) ∈ naming.answered requests) :
    (naming.afterAll requests).held? (.tensor name) = some identifier := by
  rcases naming.held_answered requests _ member with ⟨_ | key, isFor, held⟩
  · exact (show name = _ from isFor) ▸ held
  · exact isFor.elim

theorem held_node {requests : List Request} {name operator identifier : String}
    (named : name ≠ "") (member : (.node name operator, identifier) ∈ naming.answered requests) :
    (naming.afterAll requests).held? (.node name) = some identifier := by
  rcases naming.held_answered requests _ member with ⟨_ | key, isFor, held⟩
  · exact isFor.elim
  · rcases isFor with missing | rfl
    · exact (named missing).elim
    · exact held

theorem proper_afterAll (requests : List Request)
    (proper : ∀ identifier ∈ naming.taken, Proper identifier) :
    ∀ identifier ∈ (naming.afterAll requests).taken, Proper identifier := by
  induction requests generalizing naming with
  | nil => exact proper
  | cons request rest ih => exact ih ((naming.claims_answer request).proper proper)

theorem length_taken_afterAll (naming : Naming) (requests : List Request) :
    (naming.afterAll requests).taken.length ≤ naming.taken.length + requests.length := by
  induction requests generalizing naming with
  | nil => exact Nat.le_refl _
  | cons request rest ih =>
      have one := (naming.claims_answer request).length_le
      have others := ih (naming.answer request).2
      rw [afterAll_cons, List.length_cons]
      omega

/--
Identifiers are asked for in any order and under any names.  Tensors are told apart by their
identifiers and keep them, and so are nodes that have names; no tensor has the identifier of a
node, with or without a name; every identifier is a word that is not reserved; and where one is
asked for under a new name, a free one is found after no more tries than there were requests.
-/
theorem names_told_apart (requests : List Request) :
    let given := empty.answered requests
    given.map Prod.fst = requests ∧
    (∀ first one second other,
      (.tensor first, one) ∈ given → (.tensor second, other) ∈ given →
        (one = other ↔ first = second)) ∧
    (∀ first operator one second kind other, first ≠ "" → second ≠ "" →
      (.node first operator, one) ∈ given → (.node second kind, other) ∈ given →
        (one = other ↔ first = second)) ∧
    (∀ tensor one node operator other,
      (.tensor tensor, one) ∈ given → (.node node operator, other) ∈ given → one ≠ other) ∧
    (∀ answer ∈ given, Proper answer.2) ∧
    ∀ earlier later, requests = earlier ++ later → ∀ name, ∃ index ≤ earlier.length,
      (empty.afterAll earlier).Finds name index := by
  intro given
  have distinct : (empty.afterAll requests).Distinct :=
    (grows_afterAll empty requests).distinct distinct_empty
  have held := held_answered empty requests
  refine ⟨map_fst_answered empty requests, ?_, ?_, ?_, ?_, ?_⟩
  · intro first one second other isFirst isSecond
    rw [distinct.holder_inj_iff (held_tensor isFirst) (held_tensor isSecond),
      Holder.tensor.injEq]
  · intro first operator one second kind other firstNamed secondNamed isFirst isSecond
    rw [distinct.holder_inj_iff (held_node firstNamed isFirst) (held_node secondNamed isSecond),
      Holder.node.injEq]
  · rintro tensor one node operator other isTensor isNode rfl
    rcases held _ isNode with ⟨_ | key, isFor, keyHeld⟩
    · exact isFor.elim
    · cases distinct.holder_inj (held_tensor isTensor) keyHeld
  · intro answer member
    rcases held answer member with ⟨holder, _, isHeld⟩
    exact proper_afterAll requests (List.forall_mem_nil _) _ (mem_taken isHeld)
  · rintro earlier later - name
    have few := length_taken_afterAll empty earlier
    rcases (empty.afterAll earlier).exists_finds name with ⟨index, within, finds⟩
    exact ⟨index, Nat.le_trans within (by simpa [taken, empty, Table.empty] using few), finds⟩

/-- Names that ask for the same identifiers, among them that of a node without a name, with the
identifiers that they are given. -/
def lookAlikes : List (Request × String) :=
  [(.tensor "input.1", "input_1"), (.tensor "input_1", "input_1_1"),
    (.node "" "Gather", "gather1"), (.node "Gather1" "Max", "gather1"),
    (.tensor "Gather1", "gather1_1"), (.tensor "type", "type_"), (.tensor "日本", "tensor"),
    (.node "日本" "Max", "tensor_1"), (.tensor "input.1", "input_1")]

theorem lookAlikes_told_apart :
    empty.answered (lookAlikes.map Prod.fst) = lookAlikes ∧
    ("input_1" = "input_1_1" ↔ "input.1" = "input_1") ∧
    ("gather1" = "tensor_1" ↔ "Gather1" = "日本") ∧
    "gather1_1" ≠ "gather1" ∧
    Proper "type_" ∧
    ∃ index ≤ 2, (empty.afterAll [.tensor "input.1", .tensor "input_1"]).Finds "input 1" index := by
  have answers : empty.answered (lookAlikes.map Prod.fst) = lookAlikes := by
    decide +kernel
  have ⟨_, tensors, nodes, apart, proper, found⟩ := names_told_apart (lookAlikes.map Prod.fst)
  rw [answers] at tensors nodes apart proper
  refine ⟨answers, ?_, ?_, ?_, ?_, ?_⟩
  · exact tensors _ _ _ _ (by decide) (by decide)
  · exact nodes _ "Max" _ _ "Max" _ (by decide) (by decide) (by decide) (by decide)
  · exact apart "Gather1" _ "Gather1" "Max" _ (by decide) (by decide)
  · exact proper (.tensor "type", "type_") (by decide)
  · exact found [.tensor "input.1", .tensor "input_1"] _ rfl "input 1"

end Naming

end Network

end OnnxForge

import OnnxForge.Network.Tokens
import OnnxForge.Proofs.Network.Expressions
import OnnxForge.Proofs.Network.Literals
import OnnxForge.Proofs.Network.Naming

/-!
# Reading expressions

The code of an expression is a chain of method calls. It is read token by token, with the calls
that are yet to be closed on a stack: a name is a variable or the module itself, a dot asks for a
field of the module or for a method of what was read before it, and at a closing parenthesis the
method tells what becomes of its receiver and its arguments. The code of every expression is
read back as that expression, within whatever calls it stands.
-/

namespace OnnxForge.Source

open Token Network

/-! ## Terms and calls -/

/-- What code stands for. -/
inductive Term
  /-- The module that the code belongs to. -/
  | self
  | field (name : String)
  | tensor (value : Expression)
  | number (value : Nat)
  | numbers (values : List Nat)
  | tuple (values : List Expression)
deriving DecidableEq

namespace Term

/-- A variable that is cloned. Nothing else is. -/
def cloned? : Expression → Option Expression
  | .var name false => some (.var name true)
  | _ => none

/-- What a method gives, called on a term with type arguments and arguments. -/
def call? : Term → String → List Nat → List Term → Option Term
  | field name, "val", [], [] => some (tensor (.constant name))
  | field name, "forward", [], [tensor index] => some (tensor (.embed name index))
  | tensor operand, "clone", [], [] => (cloned? operand).map tensor
  | tensor operand, "int", [], [] => some (tensor (.toInt operand))
  | tensor operand, "max", [], [] => some (tensor (.max operand))
  | tensor operand, "sum", [], [] => some (tensor (.sum operand))
  | tensor operand, "sum_dim", [], [number axis] => some (tensor (.sumAlong operand axis))
  | tensor operand, "squeeze_dims", [rank], [numbers axes] =>
    some (tensor (.squeeze operand rank axes))
  | tensor operand, "select", [], [number axis, tensor index] =>
    some (tensor (.select operand axis index))
  | tensor operand, "take", [indexRank, rank], [number axis, tensor index] =>
    some (tensor (.take operand indexRank rank axis index))
  | _, _, _, _ => none

/-- The expression that a term is. -/
def tensor? : Term → Option Expression
  | tensor value => some value
  | _ => none

/-- The expressions of a term. -/
def tensors? : Term → Option (List Expression)
  | tensor value => some [value]
  | tuple values => some values
  | _ => none

end Term

/-- A method of a term, with the numbers that it has as type arguments. -/
structure Method where
  receiver : Term
  name : String
  types : List Nat

/-- What a parenthesis opens. -/
inductive Frame
  | call (method : Method)
  | tuple

/-- What the terms between parentheses become. A single expression is no tuple. -/
def Frame.close? : Frame → List Term → Option Term
  | call method, arguments => method.receiver.call? method.name method.types arguments
  | tuple, [_] => none
  | tuple, terms => (terms.mapM Term.tensor?).map Term.tuple

/-! ## Reading a token -/

/-- Where the reading of a term has come. -/
inductive Place
  /-- A term begins here. -/
  | start
  /-- A term may end here. -/
  | ended (term : Term)
  /-- A dot follows a term. -/
  | dot (term : Term)
  | method (method : Method)
  /-- One of the two colons before type arguments was read. -/
  | colon (method : Method)
  | colons (method : Method)
  /-- A type argument has to follow. -/
  | types (method : Method)
  /-- A type argument was read. -/
  | typed (method : Method)
  /-- A list of numbers is borrowed here. -/
  | borrowed
  /-- A number may follow in a list. -/
  | list (values : List Nat)
  /-- A number was read in a list. -/
  | listed (values : List Nat)

/-- The place of a reading, and the parentheses that are open around it, the innermost first,
with the terms that were read in them. -/
structure Reading where
  place : Place
  opened : List (Frame × List Term)

namespace Reading

/-- The same parentheses around another place. -/
def goTo (reading : Reading) (place : Place) : Option Reading :=
  some ⟨place, reading.opened⟩

/-- A term has ended in the innermost parentheses. -/
def push? (reading : Reading) (term : Term) : Option Reading :=
  match reading.opened with
  | [] => none
  | (frame, terms) :: outer => some ⟨.start, (frame, terms ++ [term]) :: outer⟩

/-- The innermost parentheses are closed. -/
def close? (reading : Reading) : Option Reading :=
  match reading.opened with
  | [] => none
  | (frame, terms) :: outer => (frame.close? terms).map fun term => ⟨.ended term, outer⟩

end Reading

/-- The term that a word is. -/
def wordTerm (text : String) : Term :=
  match number? (word text) with
  | some value => .number value
  | none => if text = "self" then .self else .tensor (.var text false)

/-- Reads a token. -/
def readToken (reading : Reading) (token : Token) : Option Reading :=
  match reading.place, token with
  | .start, word text => reading.goTo (.ended (wordTerm text))
  | .start, mark '&' => reading.goTo .borrowed
  | .start, mark '(' => some ⟨.start, (.tuple, []) :: reading.opened⟩
  | .start, mark ')' => reading.close?
  | .ended term, mark '.' => reading.goTo (.dot term)
  | .ended term, mark ',' => reading.push? term
  | .ended term, mark ')' => reading.push? term >>= Reading.close?
  | .dot .self, word name => reading.goTo (.ended (.field name))
  | .dot term, word name => reading.goTo (.method ⟨term, name, []⟩)
  | .method method, mark '(' => some ⟨.start, (.call method, []) :: reading.opened⟩
  | .method method, mark ':' => reading.goTo (.colon method)
  | .colon method, mark ':' => reading.goTo (.colons method)
  | .colons method, mark '<' => reading.goTo (.types method)
  | .types method, token => do
    let value ← number? token
    reading.goTo (.typed { method with types := method.types ++ [value] })
  | .typed method, mark ',' => reading.goTo (.types method)
  | .typed method, mark '>' => reading.goTo (.method method)
  | .borrowed, mark '[' => reading.goTo (.list [])
  | .list values, mark ']' => reading.goTo (.ended (.numbers values))
  | .list values, token => do
    let value ← number? token
    reading.goTo (.listed (values ++ [value]))
  | .listed values, mark ',' => reading.goTo (.list values)
  | .listed values, mark ']' => reading.goTo (.ended (.numbers values))
  | _, _ => none

/-- The term that code stands for. -/
def term? (code : List Token) : Option Term :=
  match code.foldlM readToken ⟨.start, []⟩ with
  | some ⟨.ended term, []⟩ => some term
  | _ => none

/-- The expression that code stands for. -/
def expression? (code : List Token) : Option Expression :=
  term? code >>= Term.tensor?

/-- The expressions that code stands for, any number but one in a tuple. -/
def expressions? (code : List Token) : Option (List Expression) :=
  term? code >>= Term.tensors?

/-! ## Reading bindings -/

/-- The names that code binds at its start, with the code of their values, and the tokens after
these bindings. The first of them may have begun, with a name and some of its value. -/
def bindings? : Option (String × List Token) → List Token →
    Option (List (String × List Token) × List Token)
  | none, word "let" :: word name :: mark '=' :: rest => bindings? (some (name, [])) rest
  | none, rest => some ([], rest)
  | some _, [] => none
  | some (name, value), token :: rest =>
    if token = mark ';' then
      (bindings? none rest).map fun (others, after) => ((name, value) :: others, after)
    else bindings? (some (name, value ++ [token])) rest

/-- The assignment that a binding is. -/
def assignmentOf? (binding : String × List Token) : Option Assignment :=
  (expression? binding.2).map fun value => ⟨binding.1, value⟩

/-- The assignment that code stands for. -/
def assignment? (code : List Token) : Option Assignment :=
  match bindings? none code with
  | some ([binding], []) => assignmentOf? binding
  | _ => none

/-! ## Terms are read back -/

/-- Code from which a term is read, whatever parentheses it stands in. -/
def Reads (code : List Token) (term : Term) : Prop :=
  ∀ opened, code.foldlM readToken ⟨.start, opened⟩ = some ⟨.ended term, opened⟩

/-- Code between parentheses from which terms are read, after others. -/
def ReadsAll (code : List Token) (terms : List Term) : Prop :=
  ∀ frame before opened,
    (code ++ [mark ')']).foldlM readToken ⟨.start, (frame, before) :: opened⟩ =
      (frame.close? (before ++ terms)).map fun term => ⟨.ended term, opened⟩

variable {code rest : List Token} {codes : List (List Token)} {term receiver : Term}
  {terms : List Term} {opened : List (Frame × List Term)} {name : String}

theorem Reads.foldlM_append (reads : Reads code term) (rest : List Token)
    (opened : List (Frame × List Term)) :
    (code ++ rest).foldlM readToken ⟨.start, opened⟩ =
      rest.foldlM readToken ⟨.ended term, opened⟩ := by
  rw [List.foldlM_append, reads]
  rfl

theorem foldlM_singleton (reading : Reading) (token : Token) :
    [token].foldlM readToken reading = readToken reading token := by
  rw [List.foldlM_cons]
  exact bind_pure _

theorem ReadsAll.nil : ReadsAll [] [] := by
  intro frame before opened
  rw [List.nil_append, List.append_nil, foldlM_singleton]
  rfl

theorem ReadsAll.single (reads : Reads code term) : ReadsAll code [term] := by
  intro frame before opened
  rw [reads.foldlM_append, foldlM_singleton]
  rfl

theorem ReadsAll.cons (reads : Reads code term) (others : ReadsAll rest terms) :
    ReadsAll (code ++ mark ',' :: rest) (term :: terms) := by
  intro frame before opened
  have following := others frame (before ++ [term]) opened
  rw [List.append_assoc before, List.singleton_append] at following
  rw [← following, List.append_assoc, reads.foldlM_append]
  rfl

theorem readsAll_commaSeparated (reads : List.Forall₂ Reads codes terms) :
    ReadsAll (commaSeparated codes) terms := by
  induction reads with
  | nil => exact .nil
  | cons first others ih =>
      cases others with
      | nil => exact .single first
      | cons second others => exact .cons first ih

/-! ## Calls are read back -/

theorem foldlM_dot (apart : receiver ≠ .self) (name : String) (rest : List Token) :
    (mark '.' :: word name :: rest).foldlM readToken ⟨.ended receiver, opened⟩ =
      rest.foldlM readToken ⟨.method ⟨receiver, name, []⟩, opened⟩ := by
  cases receiver with
  | self => exact (apart rfl).elim
  | _ => rfl

theorem foldlM_parens {method : Method} (reads : ReadsAll code terms)
    (called : method.receiver.call? method.name method.types terms = some term) :
    (parens code).foldlM readToken ⟨.method method, opened⟩ =
      some ⟨.ended term, opened⟩ := by
  have closed := reads (.call method) [] opened
  rw [List.nil_append, Frame.close?, called, Option.map_some] at closed
  exact closed

theorem Reads.methodCode (reads : Reads code receiver) (apart : receiver ≠ .self)
    {arguments : List Token} (passed : ReadsAll arguments terms)
    (called : receiver.call? name [] terms = some term) :
    Reads (methodCode code name arguments) term := by
  intro opened
  rw [Network.methodCode, reads.foldlM_append, foldlM_dot apart]
  exact foldlM_parens passed called

theorem Reads.callCode (reads : Reads code receiver) (apart : receiver ≠ .self)
    (called : receiver.call? name [] [] = some term) :
    Reads (callCode code name) term :=
  reads.methodCode apart .nil called

theorem foldlM_types (first : Nat) (others : List Nat) (method : Method) :
    (commaSeparated ((first :: others).map fun n => [naturalCode n]) ++ mark '>' :: rest).foldlM
        readToken ⟨.types method, opened⟩ =
      rest.foldlM readToken
        ⟨.method { method with types := method.types ++ first :: others }, opened⟩ := by
  have step : ∀ value method, readToken ⟨.types method, opened⟩ (naturalCode value) =
      some ⟨.typed { method with types := method.types ++ [value] }, opened⟩ := by
    intro value method
    change (number? (naturalCode value)).bind _ = _
    rw [number?_naturalCode]
    rfl
  induction others generalizing first method with
  | nil =>
      change (naturalCode first :: mark '>' :: rest).foldlM readToken _ = _
      rw [List.foldlM_cons, step]
      rfl
  | cons second others ih =>
      have following := ih second { method with types := method.types ++ [first] }
      rw [List.append_assoc, List.singleton_append] at following
      rw [← following]
      change (naturalCode first :: mark ',' :: _).foldlM readToken _ = _
      rw [List.foldlM_cons, step]
      rfl

theorem Reads.genericCode (reads : Reads code receiver) (apart : receiver ≠ .self)
    {first : Nat} {others : List Nat} {arguments : List Token} (passed : ReadsAll arguments terms)
    (called : receiver.call? name (first :: others) terms = some term) :
    Reads (genericCode code name (first :: others) arguments) term := by
  intro opened
  have colons : scan "::<" = [mark ':', mark ':', mark '<'] := by decide
  rw [Network.genericCode, List.append_assoc, List.append_assoc, reads.foldlM_append, colons]
  change (mark '.' :: word name :: _).foldlM readToken _ = _
  rw [foldlM_dot apart]
  change (commaSeparated _ ++ mark '>' :: parens arguments).foldlM readToken
    ⟨.types ⟨receiver, name, []⟩, opened⟩ = _
  rw [foldlM_types]
  exact foldlM_parens passed called

/-! ## Numbers are read back -/

theorem reads_naturalCode (value : Nat) : Reads [naturalCode value] (.number value) := by
  intro opened
  have term : wordTerm (Text.natural value) = .number value := by
    have read := number?_naturalCode value
    rw [naturalCode] at read
    rw [wordTerm, read]
  change some (Reading.mk (.ended (wordTerm (Text.natural value))) opened) = _
  rw [term]

theorem foldlM_list (values before : List Nat) :
    (commaSeparated (values.map fun n => [naturalCode n]) ++ [mark ']']).foldlM readToken
        ⟨.list before, opened⟩ =
      some ⟨.ended (.numbers (before ++ values)), opened⟩ := by
  have step : ∀ value before, readToken ⟨.list before, opened⟩ (naturalCode value) =
      some ⟨.listed (before ++ [value]), opened⟩ := by
    intro value before
    change (number? (naturalCode value)).bind _ = _
    rw [number?_naturalCode]
    rfl
  induction values generalizing before with
  | nil =>
      rw [List.append_nil, List.map_nil, commaSeparated, List.nil_append, foldlM_singleton]
      rfl
  | cons value others ih =>
      have following := ih (before ++ [value])
      rw [List.append_assoc before, List.singleton_append] at following
      rw [← following]
      cases others with
      | nil =>
          change [naturalCode value, mark ']'].foldlM readToken _ =
            [mark ']'].foldlM readToken _
          rw [List.foldlM_cons, step]
          rfl
      | cons second others =>
          change (naturalCode value :: mark ',' :: _).foldlM readToken _ = _
          rw [List.foldlM_cons, step]
          rfl

theorem reads_naturalsCode (values : List Nat) :
    Reads (mark '&' :: naturalsCode values) (.numbers values) :=
  fun _ => foldlM_list values []

/-! ## Expressions are read back -/

theorem reads_field (name : String) : Reads (scan "self." ++ [word name]) (.field name) := by
  intro opened
  have self : scan "self." = [word "self", mark '.'] := by decide
  have module : wordTerm "self" = .self := by decide
  rw [self]
  change [mark '.', word name].foldlM readToken ⟨.ended (wordTerm "self"), opened⟩ = _
  rw [module]
  rfl

theorem isDigit_of_isLower {c : Char} (lower : c.isLower = true) : c.isDigit = false := by
  have low : 97 ≤ c.val := (decide_eq_true_iff.mp (Bool.and_eq_true_iff.mp lower).1)
  refine Bool.eq_false_iff.mpr fun digit => ?_
  have high : c.val ≤ 57 := (decide_eq_true_iff.mp (Bool.and_eq_true_iff.mp digit).2)
  exact absurd (UInt32.le_trans low high) (by decide)

/-- A word that is neither a number nor reserved for the module is a variable. -/
theorem wordTerm_of_proper {name : String} (proper : Identifier.Proper name) :
    wordTerm name = .tensor (.var name false) := by
  rcases proper.led with ⟨first, rest, characters, lower⟩
  have noDigit : first.isDigit = false := isDigit_of_isLower lower
  have noNumber : number? (word name) = none := by
    rw [number?, numeral?, characters, List.takeWhile_cons_of_neg (by simp [noDigit])]
  have noModule : name ≠ "self" := fun same => proper.unreserved (same ▸ by decide)
  rw [wordTerm, noNumber, if_neg noModule]

/-- The code of an expression is read back, if its variables are known by their names. -/
theorem reads_code {value : Expression}
    (known : ∀ name ∈ value.names, wordTerm name = .tensor (.var name false)) :
    Reads value.code (.tensor value) := by
  have known_of_append : ∀ {first second : Expression},
      (∀ name ∈ (first.reads ++ second.reads).map (·.1),
        wordTerm name = .tensor (.var name false)) →
      (∀ name ∈ first.names, wordTerm name = .tensor (.var name false)) ∧
        ∀ name ∈ second.names, wordTerm name = .tensor (.var name false) := by
    intro first second both
    rwa [List.map_append, List.forall_mem_append] at both
  induction value with
  | var name cloned =>
      have moved : Reads [word name] (.tensor (.var name false)) := by
        intro opened
        rw [foldlM_singleton, ← known name List.mem_cons_self]
        rfl
      cases cloned with
      | false => exact moved
      | true => exact moved.callCode nofun rfl
  | constant field => exact (reads_field field).callCode nofun rfl
  | toInt operand ih => exact (ih known).callCode nofun rfl
  | max operand ih => exact (ih known).callCode nofun rfl
  | sum operand ih => exact (ih known).callCode nofun rfl
  | sumAlong operand axis ih =>
      exact (ih known).methodCode nofun (.single (reads_naturalCode axis)) rfl
  | squeeze operand rank axes ih =>
      exact (ih known).genericCode nofun (.single (reads_naturalsCode axes)) rfl
  | select operand axis index ofOperand ofIndex =>
      have ⟨knownOperand, knownIndex⟩ := known_of_append known
      exact (ofOperand knownOperand).methodCode nofun
        (.cons (reads_naturalCode axis) (.single (ofIndex knownIndex))) rfl
  | take operand indexRank rank axis index ofOperand ofIndex =>
      have ⟨knownOperand, knownIndex⟩ := known_of_append known
      exact (ofOperand knownOperand).genericCode nofun
        (.cons (reads_naturalCode axis) (.single (ofIndex knownIndex))) rfl
  | embed layer index ih =>
      exact (reads_field layer).methodCode nofun (.single (ih known)) rfl

theorem expression?_code {value : Expression}
    (known : ∀ name ∈ value.names, wordTerm name = .tensor (.var name false)) :
    expression? value.code = some value := by
  rw [expression?, term?, reads_code known]
  rfl

theorem expression?_code_of_proper {value : Expression}
    (proper : ∀ name ∈ value.names, Identifier.Proper name) :
    expression? value.code = some value :=
  expression?_code fun name member => wordTerm_of_proper (proper name member)

/-- The code of expressions is read back, as one term. -/
theorem exists_reads_tupleCode {values : List Expression}
    (proper : ∀ value ∈ values, ∀ name ∈ value.names, Identifier.Proper name) :
    ∃ term, Reads (tupleCode (values.map Expression.code)) term ∧
      term.tensors? = some values := by
  have reads : ∀ value ∈ values, Reads value.code (.tensor value) := fun value member =>
    reads_code fun name isRead => wordTerm_of_proper (proper value member name isRead)
  match values with
  | [value] => exact ⟨_, reads value List.mem_cons_self, rfl⟩
  | [] => exact ⟨.tuple [], fun opened => rfl, rfl⟩
  | first :: second :: others =>
      have each : List.Forall₂ Reads ((first :: second :: others).map Expression.code)
          ((first :: second :: others).map Term.tensor) := by
        rw [List.forall₂_map_left_iff, List.forall₂_map_right_iff, List.forall₂_same]
        exact reads
      have tensors : ((first :: second :: others).map Term.tensor).mapM Term.tensor? =
          some (first :: second :: others) := by
        rw [List.mapM_map]
        exact List.mapM_pure.trans (congrArg some (List.map_id _))
      have closed : Frame.tuple.close? ((first :: second :: others).map Term.tensor) =
          some (.tuple (first :: second :: others)) :=
        congrArg (Option.map Term.tuple) tensors
      refine ⟨.tuple (first :: second :: others), fun opened => ?_, rfl⟩
      have read := readsAll_commaSeparated each .tuple [] opened
      rw [List.nil_append, closed] at read
      exact read

/-! ## Bindings are read back -/

/-- A token that is no part of any term. -/
def Foreign (token : Token) : Prop :=
  ∀ reading, readToken reading token = none

theorem foreign_semicolon : Foreign (mark ';') := by
  rintro ⟨place, opened⟩
  cases place with
  | dot term => cases term <;> rfl
  | _ => rfl

/-- A term ends before a token that is no part of it. -/
theorem Reads.notMem (reads : Reads code term) {token : Token} (isForeign : Foreign token) :
    token ∉ code := by
  intro member
  rcases List.append_of_mem member with ⟨first, last, split⟩
  have whole := reads []
  rw [split, List.foldlM_append] at whole
  rcases Option.bind_eq_some_iff.mp whole with ⟨between, _, following⟩
  rw [List.foldlM_cons, isForeign] at following
  cases following

theorem bindings?_begun (binding : String × List Token) (token : Token) (rest : List Token) :
    bindings? (some binding) (token :: rest) =
      if token = mark ';' then
        (bindings? none rest).map fun (others, after) => (binding :: others, after)
      else bindings? (some (binding.1, binding.2 ++ [token])) rest :=
  rfl

theorem bindings?_value {value : List Token} (plain : mark ';' ∉ value) (name : String)
    (begun rest : List Token) :
    bindings? (some (name, begun)) (value ++ mark ';' :: rest) =
      (bindings? none rest).map fun (others, after) =>
        ((name, begun ++ value) :: others, after) := by
  induction value generalizing begun with
  | nil => rw [List.nil_append, bindings?_begun, if_pos rfl, List.append_nil]
  | cons token others ih =>
      have ⟨other, plainOthers⟩ := List.ne_and_not_mem_of_not_mem_cons plain
      rw [List.cons_append, bindings?_begun, if_neg other.symm, ih plainOthers, List.append_assoc,
        List.singleton_append]

theorem bindings?_letCode {value : List Token} (plain : mark ';' ∉ value) (name : String)
    (rest : List Token) :
    bindings? none (letCode name value ++ rest) =
      (bindings? none rest).map fun (others, after) => ((name, value) :: others, after) := by
  rw [letCode, List.append_assoc]
  exact bindings?_value plain name [] rest

theorem assignment?_code {assignment : Assignment}
    (proper : ∀ name ∈ assignment.value.names, Identifier.Proper name) :
    assignment? assignment.code = some assignment := by
  have known := fun name member => wordTerm_of_proper (proper name member)
  have bound := bindings?_letCode ((reads_code known).notMem foreign_semicolon) assignment.name []
  rw [List.append_nil] at bound
  rw [assignment?, Assignment.code, bound]
  exact congrArg (Option.map _) (expression?_code known)

end OnnxForge.Source

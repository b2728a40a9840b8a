import OnnxForge.Binding.Files
import OnnxForge.Proofs.Text.Numeral

/-!
# Outlines of generated code

What generated code does is read off its tokens: which functions it defines, which nodes
they make, which versions they resolve, and how the arms of a dispatcher take arguments and
call functions. A reader goes from token to token and notes such places. The outline of a
function or a dispatcher then follows from the parts of its code, since no place that is
noted reaches across the end of a part.
-/

namespace OnnxForge.Binding

open Source Token

/-- A place of interest in generated code. -/
inductive Landmark
  /-- A module that is kept in a file. -/
  | includes (module file : String)
  /-- The head of a function. -/
  | defines (function : String)
  /-- A call that makes a node of an operator and a version. -/
  | makes (operator domain version : String)
  /-- A call that resolves the version of an operator. -/
  | resolves (operator domain : String)
  /-- The label of an arm. -/
  | arm (label : String)
  /-- A statement that takes an argument, or what is left of them, for a parameter. -/
  | takes (parameter method : String)
  /-- A call of a function of a module with a graph, and the names passed. -/
  | calls (module function : String) (passed : List String)
deriving DecidableEq

/-- The words of a list, which commas separate. -/
def listedWords : List Token → List String
  | word text :: mark ',' :: rest => text :: listedWords rest
  | word text :: _ => [text]
  | _ => []

/-- The statement that begins with the binding of a name, if it takes arguments. -/
def taking? (name : String) : List Token → Option Landmark
  | mark '=' :: word source :: mark '.' :: word method :: _ =>
    if source = "args" then some (.takes name method) else none
  | _ => none

/-- The declaration that begins with the name of a module, if the module is kept in a file. -/
def including? (name : String) : List Token → Option Landmark
  | mark '\x7b' :: word macroName :: mark '!' :: mark '(' :: quoted file :: mark ')' ::
      mark ';' :: mark '\x7d' :: _ =>
    if macroName = "include" then some (.includes name file) else none
  | _ => none

/-- The place of interest that tokens begin with. -/
def landmark? : List Token → Option Landmark
  | word keyword :: word name :: rest =>
    if keyword = "fn" then some (.defines name)
    else if keyword = "let" then taking? name rest
    else if keyword = "mod" then including? name rest
    else none
  | word label :: mark '=' :: mark '>' :: _ => some (.arm label)
  | word module :: mark ':' :: mark ':' :: word function :: mark '(' :: word first :: mark ',' ::
      rest =>
    if first = "graph" then some (.calls module function (first :: listedWords rest)) else none
  | word method :: mark '(' :: quoted operator :: mark ',' :: quoted domain :: mark ',' ::
      word version :: _ =>
    if method = "make_node" then some (.makes operator domain version) else none
  | word method :: mark '(' :: quoted operator :: mark ',' :: quoted domain :: mark ')' :: _ =>
    if method = "resolve_version" then some (.resolves operator domain) else none
  | _ => none

/-- The places of interest in code, in order. -/
def outline : List Token → List Landmark
  | [] => []
  | token :: rest => (landmark? (token :: rest)).toList ++ outline rest

/-- A part of code has these places of interest, whatever comes after it. -/
def Reads (tokens : List Token) (landmarks : List Landmark) : Prop :=
  ∀ rest, outline (tokens ++ rest) = landmarks ++ outline rest

/-- A list of two items or more has a comma after its first. -/
theorem commaSeparated_cons_append (first last : List Token) (items : List (List Token)) :
    commaSeparated (first :: items ++ [last]) =
      first ++ mark ',' :: commaSeparated (items ++ [last]) := by
  cases items <;> rfl

namespace Reads

theorem nil : Reads [] [] := fun _ => rfl

theorem append {first second : List Token} {earlier later : List Landmark}
    (firstReads : Reads first earlier) (secondReads : Reads second later) :
    Reads (first ++ second) (earlier ++ later) := by
  intro rest
  rw [List.append_assoc, firstReads, secondReads, List.append_assoc]

theorem outline_eq {tokens : List Token} {landmarks : List Landmark}
    (reads : Reads tokens landmarks) : outline tokens = landmarks := by
  simpa [outline] using reads []

theorem flatMap {α : Type} {items : List α} {code : α → List Token} {found : α → List Landmark}
    (each : ∀ item ∈ items, Reads (code item) (found item)) :
    Reads (items.flatMap code) (items.flatMap found) := by
  induction items with
  | nil => exact nil
  | cons item rest ih =>
      rcases List.forall_mem_cons.mp each with ⟨first, others⟩
      exact first.append (ih others)

/-- Nothing is noted in a list of items of which none has a place of interest. -/
theorem list {items : List (List Token)} {closing : Char}
    (each : ∀ item ∈ items,
      Reads (item ++ [mark ',']) [] ∧ Reads (item ++ [mark closing]) []) :
    Reads (commaSeparated items ++ [mark closing]) [] := by
  induction items with
  | nil => exact fun _ => rfl
  | cons item rest ih =>
      rcases List.forall_mem_cons.mp each with ⟨⟨between, last⟩, others⟩
      cases rest with
      | nil => exact last
      | cons next rest =>
          have split : commaSeparated (item :: next :: rest) ++ [mark closing] =
              (item ++ [mark ',']) ++ (commaSeparated (next :: rest) ++ [mark closing]) := by
            simp [commaSeparated]
          rw [split]
          exact between.append (ih others)

end Reads

/-! ## Words -/

theorem scanChars_word {c : Char} {rest : List Char} (wordy : ∀ d ∈ c :: rest, isWordChar d) :
    scanChars (c :: rest) = [word (String.ofList (c :: rest))] := by
  induction rest generalizing c with
  | nil =>
      have first : isWordChar c = true := wordy c List.mem_cons_self
      simp only [scanChars, scanChar, first, if_true]
      rfl
  | cons d rest ih =>
      rcases List.forall_mem_cons.mp wordy with ⟨first, others⟩
      have follows : (d :: rest).head?.any isWordChar = true := others d List.mem_cons_self
      have joined :
          String.singleton c ++ String.ofList (d :: rest) = String.ofList (c :: d :: rest) :=
        String.toList_inj.mp (by simp)
      rw [scanChars, ih others]
      simp only [scanChar, first, follows, if_true, joined]

theorem scan_natural (n : Nat) : scan (Text.natural n) = [word (Text.natural n)] := by
  have digits : ∀ d ∈ (Text.natural n).toList, isWordChar d := by
    intro d member
    simp [isWordChar, Char.isAlphanum, Text.isDigit_of_mem_natural member]
  rw [scan]
  cases characters : (Text.natural n).toList with
  | nil =>
      rw [Text.toList_natural] at characters
      exact (Nat.toDigits_ne_nil characters).elim
  | cons c rest =>
      rw [characters] at digits
      rw [scanChars_word digits, ← characters, String.ofList_toList]

/-- The numeral of a version. -/
def numeral (version : Int64) : String :=
  Text.integer version.toInt

/-- The numeral of a version that is not negative is one token. -/
theorem versionTokens_eq {version : Int64} (positive : 0 ≤ version.toInt) :
    versionTokens version = [word (numeral version)] := by
  rw [versionTokens, numeral]
  cases value : version.toInt with
  | ofNat n => exact scan_natural n
  | negSucc n => omega

/-! ## Functions -/

theorem reads_doc (text : String) : Reads (doc text) [] := fun _ => rfl

theorem Parameter.reads_declaration (parameter : Parameter) :
    Reads (parameter.declaration ++ [mark ',']) [] ∧
      Reads (parameter.declaration ++ [mark ')']) [] := by
  rcases parameter with ⟨name, kind⟩
  cases kind <;> exact ⟨fun _ => rfl, fun _ => rfl⟩

theorem Parameter.reads_element (parameter : Parameter) :
    Reads (parameter.element ++ [mark ',']) [] ∧
      Reads (parameter.element ++ [mark ']']) [] := by
  rcases parameter with ⟨name, kind⟩
  cases kind <;> exact ⟨fun _ => rfl, fun _ => rfl⟩

theorem CountRule.reads_expression (rule : CountRule) :
    Reads (scan "let arity =" ++ rule.expression ++ [mark ';']) [] := by
  cases rule <;> exact fun _ => rfl

namespace Function

/-- A function is defined, and it makes a node of its operator and version. -/
def outline (function : Function) : List Landmark :=
  [.defines function.name,
    .makes function.operator function.domain (numeral function.version)]

theorem reads_parameters (function : Function) :
    Reads (scan "pub fn" ++ [word function.name] ++
        parens (commaSeparated (scan "graph: &mut GraphBuilder" ::
          function.parameters.map Parameter.declaration ++ [scan "attrs: Attributes"])))
      [.defines function.name] := by
  have head : Reads (scan "pub fn" ++ [word function.name] ++
      (mark '(' :: scan "graph: &mut GraphBuilder" ++ [mark ','])) [.defines function.name] :=
    fun _ => rfl
  have others : Reads (commaSeparated (function.parameters.map Parameter.declaration ++
      [scan "attrs: Attributes"]) ++ [mark ')']) [] := by
    refine .list (List.forall_mem_append.mpr ⟨?_, ?_⟩)
    · exact List.forall_mem_map.mpr fun parameter _ => parameter.reads_declaration
    · exact List.forall_mem_singleton.mpr ⟨fun _ => rfl, fun _ => rfl⟩
  rw [commaSeparated_cons_append]
  simpa [parens, enclosed] using head.append others

theorem reads_fixed (function : Function) :
    Reads (commaSeparated (function.fixed.map Parameter.element) ++ [mark ']']) [] :=
  .list (List.forall_mem_map.mpr fun parameter _ => parameter.reads_element)

theorem reads_staging (function : Function) : Reads function.staging [] := by
  rw [staging]
  cases function.variadic? with
  | none =>
      have opened : Reads (scan "let inputs = add_inputs" ++
          mark '(' :: (scan "graph," ++ (scan "vec!" ++ [mark '[']))) [] :=
        fun _ => rfl
      have closed : Reads (mark ')' :: scan "?;") [] := fun _ => rfl
      simpa [parens, brackets, enclosed] using
        opened.append (function.reads_fixed.append closed)
  | some parameter =>
      rcases parameter with ⟨name, kind⟩
      simp only
      split
      · exact fun _ => rfl
      · have opened : Reads (scan "let mut args =" ++ (scan "vec!" ++ [mark '['])) [] :=
          fun _ => rfl
        have closed : Reads (scan "; args.extend" ++
            (parens (word name :: scan ".into_iter().map(Some)") ++ mark ';' ::
              (scan "let inputs = add_inputs" ++ (parens (scan "graph," ++ scan "args") ++
                scan "?;")))) [] :=
          fun _ => rfl
        simpa [brackets, enclosed] using opened.append (function.reads_fixed.append closed)

theorem reads_definition {function : Function} (positive : 0 ≤ function.version.toInt) :
    Reads function.definition function.outline := by
  have documented := reads_doc (" \x60" ++ function.operator ++
    "\x60 operator, since opset " ++ Text.integer function.version.toInt ++ ".")
  have typed : Reads result [] := fun _ => rfl
  have opened : Reads [mark '\x7b'] [] := fun _ => rfl
  have made : Reads (scan "graph.make_node" ++
      parens ([quoted function.operator, mark ',', quoted function.domain, mark ','] ++
        versionTokens function.version ++ scan ", inputs, arity, attrs") ++ [mark '\x7d'])
      [.makes function.operator function.domain (numeral function.version)] := by
    rw [versionTokens_eq positive]
    exact fun _ => rfl
  have whole := documented.append (function.reads_parameters.append (typed.append
    (opened.append (function.countRule.reads_expression.append
      (function.reads_staging.append made)))))
  simpa [definition, outline, braces, enclosed] using whole

end Function

/-- The file of a version defines its functions, in order. -/
theorem VersionModule.reads_code {module : VersionModule}
    (positive : ∀ function ∈ module.functions, 0 ≤ function.version.toInt) :
    Reads module.code (module.functions.flatMap Function.outline) := by
  have header : Reads (allowUnused ++ scan "use onnx_model_maker::builder::" ++
      braces (scan "Attributes, GraphBuilder, NodeHandle, NodeInput, OutputArity") ++
      scan "; use onnx_model_maker::Result; use super::op_helper::add_inputs;") [] :=
    fun _ => rfl
  exact header.append (.flatMap fun function member =>
    Function.reads_definition (positive function member))

/-! ## Dispatchers -/

namespace Dispatcher

/-- The place where the arguments of a parameter are taken. -/
def taken (parameter : Parameter) : Landmark :=
  .takes parameter.name
    (match parameter.kind with
    | .required => "required"
    | .optional => "optional"
    | .variadic => "rest")

/-- An arm takes the arguments of its parameters in order, and calls the function of its
version with the graph, the arguments in the same order and the attributes. -/
def armOutline (function : Function) : List Landmark :=
  .arm (numeral function.version) :: function.parameters.map taken ++
    [.calls (moduleName function.version) function.name
      ("graph" :: function.parameters.map (·.name) ++ ["attrs"])]

/-- Arms have labels, take arguments and call functions, and have no other places of
interest. -/
theorem forall_arms (dispatcher : Dispatcher) {property : Landmark → Prop}
    (label : ∀ text, property (.arm text))
    (takes : ∀ parameter method, property (.takes parameter method))
    (calls : ∀ module function passed, property (.calls module function passed)) :
    ∀ landmark ∈ dispatcher.arms.flatMap armOutline, property landmark := by
  intro landmark member
  rcases List.mem_flatMap.mp member with ⟨function, _, inArm⟩
  rcases List.mem_cons.mp inArm with rfl | later
  · exact label _
  · rcases List.mem_append.mp later with taking | calling
    · rcases List.mem_map.mp taking with ⟨parameter, _, rfl⟩
      exact takes _ _
    · rcases List.mem_singleton.mp calling with rfl
      exact calls _ _ _

/-- A dispatcher is defined, and it resolves the version of its operator and has an arm for
each of its functions and one for other versions. -/
def outline (dispatcher : Dispatcher) : List Landmark :=
  .defines dispatcher.name :: .resolves dispatcher.operator dispatcher.domain ::
    dispatcher.arms.flatMap armOutline ++ [.arm "version"]

theorem forall_outline (dispatcher : Dispatcher) {property : Landmark → Prop}
    (defines : ∀ function, property (.defines function))
    (resolves : ∀ operator domain, property (.resolves operator domain))
    (label : ∀ text, property (.arm text))
    (takes : ∀ parameter method, property (.takes parameter method))
    (calls : ∀ module function passed, property (.calls module function passed)) :
    ∀ landmark ∈ dispatcher.outline, property landmark := by
  rw [outline, List.forall_mem_append, List.forall_mem_cons, List.forall_mem_cons,
    List.forall_mem_singleton]
  exact ⟨⟨defines _, resolves _ _, dispatcher.forall_arms label takes calls⟩, label _⟩

theorem reads_unpack (parameter : Parameter) :
    Reads (unpack parameter) [taken parameter] := by
  rcases parameter with ⟨name, kind⟩
  cases kind <;> exact fun _ => rfl

theorem listedWords_eq (words : List String) (rest : List Token) :
    listedWords (commaSeparated (words.map (fun text => [word text]) ++ [scan "attrs"]) ++
      mark ')' :: rest) = words ++ ["attrs"] := by
  induction words with
  | nil => rfl
  | cons text words ih =>
      rw [List.map_cons, commaSeparated_cons_append]
      exact congrArg (text :: ·) ih

theorem outline_call (module name : String) (following : List Token) :
    Binding.outline ([word module] ++ scan "::" ++ [word name] ++
        mark '(' :: (scan "graph" ++ mark ',' :: following)) =
      .calls module name ("graph" :: listedWords following) :: Binding.outline following :=
  rfl

theorem reads_forwarding (module name : String) (words : List String) :
    Reads ([word module] ++ scan "::" ++ [word name] ++
        parens (commaSeparated (scan "graph" :: words.map (fun text => [word text]) ++
          [scan "attrs"])))
      [.calls module name ("graph" :: words ++ ["attrs"])] := by
  intro rest
  let others := commaSeparated (words.map (fun text => [word text]) ++ [scan "attrs"])
  have silent : Reads (others ++ [mark ')']) [] := by
    refine .list (List.forall_mem_append.mpr ⟨?_, ?_⟩)
    · exact List.forall_mem_map.mpr fun text _ => ⟨fun _ => rfl, fun _ => rfl⟩
    · exact List.forall_mem_singleton.mpr ⟨fun _ => rfl, fun _ => rfl⟩
  have passed : Binding.outline (others ++ mark ')' :: rest) = Binding.outline rest := by
    simpa using silent rest
  have split : [word module] ++ scan "::" ++ [word name] ++
      parens (commaSeparated (scan "graph" :: words.map (fun text => [word text]) ++
        [scan "attrs"])) ++ rest =
      [word module] ++ scan "::" ++ [word name] ++
        mark '(' :: (scan "graph" ++ mark ',' :: (others ++ mark ')' :: rest)) := by
    rw [commaSeparated_cons_append]
    simp [parens, enclosed, others]
  rw [split, outline_call, listedWords_eq, passed]
  rfl

theorem reads_arm {function : Function} (positive : 0 ≤ function.version.toInt) :
    Reads (arm function) (armOutline function) := by
  have opened : Reads (word (numeral function.version) :: (scan "=>" ++ [mark '\x7b']))
      [.arm (numeral function.version)] :=
    fun _ => rfl
  have unpacked : Reads (function.parameters.flatMap unpack) (function.parameters.map taken) := by
    rw [List.map_eq_flatMap]
    exact .flatMap fun parameter _ => reads_unpack parameter
  have finished : Reads (scan "args.finish()?;") [] := fun _ => rfl
  have forwarded := reads_forwarding (moduleName function.version) function.name
    (function.parameters.map (·.name))
  have closed : Reads [mark '\x7d'] [] := fun _ => rfl
  have whole := opened.append (unpacked.append (finished.append (forwarded.append closed)))
  rw [List.map_map] at whole
  simpa [arm, armOutline, versionTokens_eq positive, braces, enclosed, Function.comp_def]
    using whole

theorem reads_definition {dispatcher : Dispatcher}
    (positive : ∀ function ∈ dispatcher.arms, 0 ≤ function.version.toInt) :
    Reads dispatcher.definition dispatcher.outline := by
  have documented := reads_doc (" \x60" ++ dispatcher.operator ++
    "\x60 operator, at the opset version of the graph.")
  have head : Reads (scan "pub fn" ++ word dispatcher.name ::
      (parens (scan "graph: &mut GraphBuilder, args: Vec<Option<NodeInput>>, attrs: Attributes")
        ++ Function.result)) [.defines dispatcher.name] :=
    fun _ => rfl
  have opened : Reads (mark '\x7b' ::
      (scan (if dispatcher.takesArguments then "let mut args =" else "let args =") ++
        (scan "Args::new" ++ (parens (quoted dispatcher.operator :: scan ", args") ++
          (scan "; match" ++ (scan "graph.resolve_version" ++
            (parens [quoted dispatcher.operator, mark ',', quoted dispatcher.domain] ++
              [mark '?', mark '\x7b'])))))))
      [.resolves dispatcher.operator dispatcher.domain] := by
    cases dispatcher.takesArguments <;> exact fun _ => rfl
  have arms : Reads (dispatcher.arms.flatMap arm) (dispatcher.arms.flatMap armOutline) :=
    .flatMap fun function member => reads_arm (positive function member)
  have fallback : Reads (scan "version => Err" ++ (parens (scan "Error::unknown_schema" ++
      parens ([quoted dispatcher.operator, mark ',', quoted dispatcher.domain] ++
        scan ", version")) ++ [mark '\x7d', mark '\x7d'])) [.arm "version"] :=
    fun _ => rfl
  have whole := documented.append (head.append (opened.append (arms.append fallback)))
  simpa [definition, outline, braces, enclosed] using whole

end Dispatcher

/-! ## Other files -/

/-- The place where a module is declared, which is kept in the file of its name. -/
def including (module : String) : Landmark :=
  .includes module (fileName module)

theorem reads_moduleDeclaration (module : String) :
    Reads (moduleDeclaration module) [including module] :=
  fun _ => rfl

theorem reads_inputDefinition : Reads inputDefinition [.defines "input"] := fun _ => rfl

theorem reads_outputDefinition : Reads outputDefinition [.defines "output"] := by
  have documented := (reads_doc
    " Declare graph outputs: arrays as typed outputs, names as untyped outputs and every").append
    (reads_doc " output of a node. Nothing is declared when one of them is a list of names.")
  have head : Reads (scan
      "pub fn output(graph: &mut GraphBuilder, outputs: Vec<NodeInput>) -> Result<()>" ++
      [mark '\x7b']) [.defines "output"] :=
    fun _ => rfl
  have converted : Reads (scan "let outputs = outputs.into_iter().map(GraphOutput::try_from)")
      [] :=
    fun _ => rfl
  have declared : Reads (scan ".collect::<Result<Vec<_>>>()?; graph.output(outputs); Ok(())" ++
      [mark '\x7d']) [] :=
    fun _ => rfl
  have whole := documented.append (head.append (converted.append declared))
  simpa [outputDefinition, braces, enclosed] using whole

/-- The main file declares the modules of all other files, and defines the functions for inputs
and outputs and then the dispatchers. -/
theorem Bindings.reads_code {bindings : Bindings}
    (positive : ∀ dispatcher ∈ bindings.dispatchers, ∀ function ∈ dispatcher.arms,
      0 ≤ function.version.toInt) :
    Reads bindings.code
      (including "op_helper" :: (bindings.modules.map fun module =>
          including (moduleName module.version)) ++
        .defines "input" :: .defines "output" ::
          bindings.dispatchers.flatMap Dispatcher.outline) := by
  have header : Reads (allowUnused ++ (scan "use onnx_model_maker::builder::" ++
      (braces (scan "Args, Attributes, GraphBuilder, GraphOutput, NodeHandle, NodeInput," ++
        scan "TensorData") ++
      (scan "; use onnx_model_maker::" ++ (braces (scan "Error, Result") ++ [mark ';']))))) [] :=
    fun _ => rfl
  have shared := reads_moduleDeclaration "op_helper"
  have modules : Reads (bindings.modules.flatMap fun module =>
      moduleDeclaration (moduleName module.version))
      (bindings.modules.map fun module => including (moduleName module.version)) := by
    rw [List.map_eq_flatMap]
    exact .flatMap fun module _ => reads_moduleDeclaration _
  have documented := reads_doc " Operators with a dispatch function, by ONNX name."
  have opened : Reads (scan "pub const OPERATORS: &[&str] = &" ++ [mark '[']) [] :=
    fun _ => rfl
  have operators : Reads (commaSeparated (bindings.operators.map fun name => [quoted name]) ++
      [mark ']']) [] :=
    .list (List.forall_mem_map.mpr fun name _ => ⟨fun _ => rfl, fun _ => rfl⟩)
  have closed : Reads [mark ';'] [] := fun _ => rfl
  have dispatchers : Reads (bindings.dispatchers.flatMap Dispatcher.definition)
      (bindings.dispatchers.flatMap Dispatcher.outline) :=
    .flatMap fun dispatcher member => Dispatcher.reads_definition (positive dispatcher member)
  have whole := header.append (shared.append (modules.append (documented.append (opened.append
    (operators.append (closed.append (reads_inputDefinition.append
      (reads_outputDefinition.append dispatchers))))))))
  simpa [code, brackets, enclosed] using whole

/-- The file that the functions share defines one of its own. -/
theorem reads_helperCode : Reads helperCode [.defines "add_inputs"] := by
  have header : Reads (scan "use onnx_model_maker::builder::" ++
      (braces (scan "GraphBuilder, NodeInput, NodeInputs") ++
        scan "; use onnx_model_maker::Result;")) [] :=
    fun _ => rfl
  have documented := ((reads_doc " Convert the arguments of one node into its inputs.").append
    (reads_doc "")).append ((reads_doc
      " Absent arguments contribute nothing. Arrays become initializers, which only reach the"
      ).append (reads_doc " graph with the node."))
  have head : Reads (scan
      "pub fn add_inputs(graph: &GraphBuilder, args: Vec<Option<NodeInput>>)")
      [.defines "add_inputs"] :=
    fun _ => rfl
  have body : Reads (scan "-> Result<NodeInputs>" ++
      braces (scan "let mut inputs = graph.node_inputs(); for arg in args" ++
        braces (scan "inputs.add_input(arg)?;") ++ scan "Ok(inputs)")) [] :=
    fun _ => rfl
  have whole := header.append (documented.append (head.append body))
  simpa [helperCode] using whole

end OnnxForge.Binding

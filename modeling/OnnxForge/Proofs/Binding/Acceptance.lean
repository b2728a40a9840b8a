import OnnxForge.Proofs.Binding.Files
import OnnxForge.Proofs.Binding.Usable

/-!
# Bindings that can be written

The files of a catalogue are made one after the other. With ASCII names, none of the names of
functions and parameters stops the making for not being an identifier: it is stopped only by a
name that code cannot use, or by a version that is negative and names no module. So the files
of a catalogue can be written exactly if it has neither.
-/

namespace OnnxForge.Binding

open Source Text

/-! ## Names of a function -/

namespace Function

/-- A function whose names leave a syntax to its own code and to that of its dispatcher. -/
structure Sound (function : Function) : Prop where
  syntactic : function.hasSyntax = true
  filled : ∀ parameter ∈ function.parameters, isBlank parameter = false

theorem hasSyntax_iff {function : Function} :
    function.hasSyntax = true ↔
      function.name ≠ "_" ∧ ∀ name ∈ function.declares, name ∉ unescaped := by
  simp [hasSyntax]

/-- A function is sound exactly if all of its names are none that are overlooked. -/
theorem sound_iff {function : Function} :
    function.Sound ↔ ∀ name ∈ function.declares, name ∉ overlooked := by
  have filled : (∀ parameter ∈ function.parameters, isBlank parameter = false) ↔
      ∀ parameter ∈ function.parameters, parameter.name ≠ "_" := by
    simp [isBlank]
  have sound : function.Sound ↔ function.hasSyntax = true ∧
      ∀ parameter ∈ function.parameters, isBlank parameter = false :=
    ⟨fun sound => ⟨sound.syntactic, sound.filled⟩, fun ⟨syntactic, filled⟩ => ⟨syntactic, filled⟩⟩
  have word : ∀ name, name ∉ overlooked ↔ name ≠ "_" ∧ name ∉ unescaped := fun name =>
    by rw [overlooked, List.mem_cons, not_or]
  rw [sound, hasSyntax_iff, filled]
  simp only [word, declares, List.forall_mem_cons, List.forall_mem_map]
  constructor
  · rintro ⟨⟨named, function, parameters⟩, filled⟩
    exact ⟨⟨named, function⟩, fun parameter member =>
      ⟨filled parameter member, parameters parameter member⟩⟩
  · rintro ⟨⟨named, function⟩, parameters⟩
    exact ⟨⟨named, function, fun parameter member => (parameters parameter member).2⟩,
      fun parameter member => (parameters parameter member).1⟩

end Function

/-! ## Files -/

theorem checkIdentifiers_eq_error {names : List String} {fault : FileError}
    (failed : checkIdentifiers names = .error fault) :
    ∃ name ∈ names, isIdentifier name = false ∧ fault = .notIdentifier name := by
  rw [checkIdentifiers] at failed
  split at failed
  next name found =>
    cases failed
    exact ⟨name, List.mem_of_find?_eq_some found, by simpa using List.find?_some found, rfl⟩
  next => cases failed

/-- Only a negative version does not name its module. -/
theorem isIdentifier_moduleName {version : Int64} (nonnegative : 0 ≤ version.toInt) :
    isIdentifier (moduleName version) = true := by
  rw [moduleName]
  rcases Int.eq_ofNat_of_zero_le nonnegative with ⟨n, value⟩
  rw [value]
  exact isIdentifier_append (by decide) fun c member =>
    isIdentifierContinue_of_isDigit (isDigit_of_mem_natural member)

namespace VersionModule

variable {module : VersionModule}

/-- The names of the functions of a version. -/
def declares (module : VersionModule) : List String :=
  module.functions.flatMap Function.declares

theorem file_eq (module : VersionModule) :
    module.file = checkIdentifiers module.declares >>= fun _ =>
      if module.functions.all Function.hasSyntax = true then
        if (module.functions.any fun function => function.variadic?.any Function.isBlank) = true then
          .error .blankValue
        else .ok ⟨fileName (moduleName module.version), module.code⟩
      else .error .noSyntax := by
  rw [file]
  congr 1
  funext _
  cases module.functions.all Function.hasSyntax <;>
    cases module.functions.any fun function => function.variadic?.any Function.isBlank <;> rfl

/-- The file of a version whose names are identifiers fails only for functions that are not
sound. -/
theorem file_eq_error {fault : FileError}
    (named : ∀ name ∈ module.declares, isIdentifier name = true)
    (failed : module.file = .error fault) :
    (fault = .noSyntax ∨ fault = .blankValue) ∧
      ∃ function ∈ module.functions, ¬function.Sound := by
  rw [file_eq, checkIdentifiers_eq_ok.mpr named] at failed
  change (if _ then _ else _) = _ at failed
  split at failed
  next =>
    split at failed
    next blank =>
      cases failed
      rcases List.any_eq_true.mp blank with ⟨function, member, isBlank⟩
      rcases (Option.any_eq_true _ _).mp isBlank with ⟨parameter, variadic, isBlank⟩
      refine ⟨.inr rfl, function, member, fun sound => ?_⟩
      have filled := sound.filled parameter (List.mem_of_find?_eq_some variadic)
      cases filled.symm.trans isBlank
    next => cases failed
  next unsound =>
    cases failed
    rw [List.all_eq_true, not_forall] at unsound
    rcases unsound with ⟨function, unsound⟩
    rw [Classical.not_imp] at unsound
    exact ⟨.inl rfl, function, unsound.1, fun sound => unsound.2 sound.syntactic⟩

theorem hasSyntax_of_file {file : File} (accepted : module.file = .ok file) :
    ∀ function ∈ module.functions, function.hasSyntax = true := by
  rw [file_eq] at accepted
  rcases Attempt.outcome_bind_eq_ok.mp accepted with ⟨_, _, following⟩
  split at following
  next syntactic => exact List.all_eq_true.mp syntactic
  next => cases following

end VersionModule

namespace Bindings

variable {bindings : Bindings}

theorem mainFile_eq (bindings : Bindings) :
    bindings.mainFile =
      checkIdentifiers (bindings.modules.map fun module => moduleName module.version) >>= fun _ =>
        if (bindings.modules.any fun module => module.functions.any fun function =>
            function.parameters.any Function.isBlank) = true then .error .blankValue
        else .ok ⟨fileName "mod", bindings.code⟩ := by
  rw [mainFile]
  rfl

/-- The main file fails only for a version that is negative, or for a parameter without a
name of its own. -/
theorem mainFile_eq_error {fault : FileError} (failed : bindings.mainFile = .error fault) :
    (fault = .blankValue ∧
        ∃ module ∈ bindings.modules, ∃ function ∈ module.functions, ¬function.Sound) ∨
      ∃ module ∈ bindings.modules, module.version.toInt < 0 ∧
        fault = .notIdentifier (moduleName module.version) := by
  rw [mainFile_eq] at failed
  rcases bind_eq_error.mp failed with unnamed | ⟨_, _, following⟩
  · right
    rcases checkIdentifiers_eq_error unnamed with ⟨_, member, unfit, rfl⟩
    rcases List.mem_map.mp member with ⟨module, present, rfl⟩
    refine ⟨module, present, ?_, rfl⟩
    by_contra nonnegative
    rw [isIdentifier_moduleName (Int.not_lt.mp nonnegative)] at unfit
    cases unfit
  · left
    split at following
    next blank =>
      cases following
      rcases List.any_eq_true.mp blank with ⟨module, present, blank⟩
      rcases List.any_eq_true.mp blank with ⟨function, member, blank⟩
      rcases List.any_eq_true.mp blank with ⟨parameter, taken, isBlank⟩
      refine ⟨rfl, module, present, function, member, fun sound => ?_⟩
      cases (sound.filled parameter taken).symm.trans isBlank
    next => cases following

theorem filled_of_mainFile {file : File} (accepted : bindings.mainFile = .ok file) :
    ∀ module ∈ bindings.modules, ∀ function ∈ module.functions,
      ∀ parameter ∈ function.parameters, Function.isBlank parameter = false := by
  rw [mainFile_eq] at accepted
  rcases Attempt.outcome_bind_eq_ok.mp accepted with ⟨_, _, following⟩
  split at following
  next => cases following
  next filled => simpa using filled

/-- Bindings that can be written have sound functions only. -/
theorem sound_of_files {written : List File} (accepted : bindings.files = .ok written) :
    ∀ module ∈ bindings.modules, ∀ function ∈ module.functions, function.Sound := by
  rcases Attempt.outcome_bind_eq_ok.mp accepted with ⟨modules, eachModule, following⟩
  rcases Attempt.outcome_bind_eq_ok.mp following with ⟨main, mainAccepted, _⟩
  intro module present function member
  rcases exists_of_mem_items eachModule present with ⟨file, _, fileAccepted⟩
  exact ⟨VersionModule.hasSyntax_of_file fileAccepted function member,
    filled_of_mainFile mainAccepted module present function member⟩

/-- Bindings of identifiers fail for functions that are not sound, or for a version that is
negative. -/
theorem files_eq_error {fault : FileError}
    (named : ∀ module ∈ bindings.modules, ∀ name ∈ module.declares, isIdentifier name = true)
    (failed : bindings.files = .error fault) :
    ((fault = .noSyntax ∨ fault = .blankValue) ∧
        ∃ module ∈ bindings.modules, ∃ function ∈ module.functions, ¬function.Sound) ∨
      ∃ module ∈ bindings.modules, module.version.toInt < 0 ∧
        fault = .notIdentifier (moduleName module.version) := by
  rw [files] at failed
  rcases bind_eq_error.mp failed with failed | ⟨modules, _, failed⟩
  · rcases exists_of_mapM_eq_error failed with ⟨module, present, failed⟩
    rcases VersionModule.file_eq_error (named module present) failed with ⟨faults, unsound⟩
    exact .inl ⟨faults, module, present, unsound⟩
  · rcases bind_eq_error.mp failed with failed | ⟨main, _, failed⟩
    · rcases mainFile_eq_error failed with ⟨blank, unsound⟩ | negative
      · exact .inl ⟨.inr blank, unsound⟩
      · exact .inr negative
    · cases failed

end Bindings

/-! ## Catalogues -/

/-- A schema with ASCII names for its operator, its domain and its inputs. -/
structure AsciiNamed (schema : Schema) : Prop where
  operator : Ascii schema.name
  domain : Ascii schema.domain
  inputs : ∀ input ∈ schema.inputs, Ascii input.name

/-- A schema with names that bindings can be given: none of its inputs is unfit, and its
operator is not, at least in the default domain. -/
structure WellNamed (schema : Schema) : Prop where
  operator : ¬(isDefaultDomain schema.domain = true ∧ Unfit schema.name)
  inputs : ∀ input ∈ schema.inputs, ¬Unfit input.name

theorem declares_ofSchema (schema : Schema) :
    (Function.ofSchema schema).declares =
      functionName schema.name schema.domain ::
        parameterNames (schema.inputs.map (·.name)) :=
  congrArg (_ :: ·) (Function.names_parametersOf schema)

namespace AsciiNamed

variable {schema : Schema}

theorem spelled (ascii : AsciiNamed schema) :
    ∀ name ∈ (Function.ofSchema schema).declares, Spelled name := by
  have inputs : ∀ input ∈ schema.inputs.map (·.name), Ascii input :=
    List.forall_mem_map.mpr ascii.inputs
  rw [declares_ofSchema]
  exact List.forall_mem_cons.mpr ⟨spelled_functionName ascii.operator ascii.domain,
    spelled_parameterNamesFrom locals inputs⟩

/-- The function of a schema is sound exactly if the schema is well named. -/
theorem sound_iff (ascii : AsciiNamed schema) :
    (Function.ofSchema schema).Sound ↔ WellNamed schema := by
  have inputs : ∀ input ∈ schema.inputs.map (·.name), Ascii input :=
    List.forall_mem_map.mpr ascii.inputs
  have parameters : (∀ name ∈ parameterNames (schema.inputs.map (·.name)), name ∉ overlooked) ↔
      ∀ input ∈ schema.inputs, ¬Unfit input.name := by
    constructor
    · intro clear input member unfit
      have word := (snakeCase_mem_overlooked_iff (ascii.inputs input member)).mpr unfit
      exact clear _ ((mem_parameterNamesFrom_iff inputs word).mpr
        ⟨overlooked_notMem_locals _ word, input.name, List.mem_map_of_mem member, rfl⟩) word
    · intro fit name member word
      rcases (mem_parameterNamesFrom_iff inputs word).mp member with ⟨_, _, isInput, rfl⟩
      rcases List.mem_map.mp isInput with ⟨input, present, rfl⟩
      exact fit input present
        ((snakeCase_mem_overlooked_iff (ascii.inputs input present)).mp word)
  rw [Function.sound_iff, declares_ofSchema, List.forall_mem_cons, parameters,
    functionName_mem_overlooked_iff ascii.operator ascii.domain]
  exact ⟨fun ⟨operator, inputs⟩ => ⟨operator, inputs⟩, fun named => ⟨named.operator, named.inputs⟩⟩

end AsciiNamed

section Catalogues

variable {catalogue : Catalogue}

theorem mem_modules {module : VersionModule} :
    module ∈ (Bindings.ofCatalogue catalogue).modules ↔
      ∃ schema ∈ catalogue.schemas, module = .ofVersion catalogue schema.sinceVersion := by
  rw [Bindings.ofCatalogue, List.mem_map]
  constructor
  · rintro ⟨version, member, rfl⟩
    rcases mem_versions.mp member with ⟨schema, present, rfl⟩
    exact ⟨schema, present, rfl⟩
  · rintro ⟨schema, present, rfl⟩
    exact ⟨schema.sinceVersion, mem_versions.mpr ⟨schema, present, rfl⟩, rfl⟩

theorem mem_functions_ofVersion {version : Int64} {function : Function} :
    function ∈ (VersionModule.ofVersion catalogue version).functions ↔
      ∃ schema ∈ catalogue.schemas, schema.sinceVersion = version ∧
        function = .ofSchema schema := by
  simp only [VersionModule.ofVersion, List.mem_map, List.mem_filter, beq_iff_eq, and_assoc,
    @eq_comm _ function]

section AsciiNames

variable (ascii : ∀ schema ∈ catalogue.schemas, AsciiNamed schema)

include ascii

/-- ASCII names of a catalogue stop the making of its files only where they are unfit, and
never for not being identifiers. -/
theorem files_eq_error {fault : FileError} (failed : files catalogue = .error fault) :
    ((fault = .noSyntax ∨ fault = .blankValue) ∧
        ∃ schema ∈ catalogue.schemas, ¬WellNamed schema) ∨
      ∃ schema ∈ catalogue.schemas, schema.sinceVersion.toInt < 0 ∧
        fault = .notIdentifier (moduleName schema.sinceVersion) := by
  have named : ∀ module ∈ (Bindings.ofCatalogue catalogue).modules,
      ∀ name ∈ module.declares, isIdentifier name = true := by
    intro module present name declared
    rcases mem_modules.mp present with ⟨_, _, rfl⟩
    rcases List.mem_flatMap.mp declared with ⟨function, member, declared⟩
    rcases mem_functions_ofVersion.mp member with ⟨schema, isSchema, _, rfl⟩
    exact ((ascii schema isSchema).spelled name declared).isIdentifier
  rcases Bindings.files_eq_error named failed with
    ⟨faults, module, present, function, member, unsound⟩ | ⟨module, present, negative, unnamed⟩
  · rcases mem_modules.mp present with ⟨_, _, rfl⟩
    rcases mem_functions_ofVersion.mp member with ⟨schema, isSchema, _, rfl⟩
    exact .inl ⟨faults, schema, isSchema,
      fun wellNamed => unsound ((ascii schema isSchema).sound_iff.mpr wellNamed)⟩
  · rcases mem_modules.mp present with ⟨schema, isSchema, rfl⟩
    exact .inr ⟨schema, isSchema, negative, unnamed⟩

/-- The files of a catalogue with ASCII names can be written exactly if its names are fit and
no version is negative. -/
theorem exists_files_iff :
    (∃ written, files catalogue = .ok written) ↔
      ∀ schema ∈ catalogue.schemas, WellNamed schema ∧ 0 ≤ schema.sinceVersion.toInt := by
  constructor
  · rintro ⟨written, accepted⟩ schema member
    have module := mem_modules.mpr ⟨schema, member, rfl⟩
    have sound := Bindings.sound_of_files accepted _ module (.ofSchema schema)
      (mem_functions_ofVersion.mpr ⟨schema, member, rfl, rfl⟩)
    exact ⟨(ascii schema member).sound_iff.mp sound,
      (Bindings.files_eq_ok accepted).2 _ module⟩
  · intro each
    cases outcome : files catalogue with
    | ok written => exact ⟨written, rfl⟩
    | error fault =>
        rcases files_eq_error ascii outcome with ⟨_, schema, member, unnamed⟩ |
          ⟨schema, member, negative, _⟩
        · exact (unnamed (each schema member).1).elim
        · exact (Int.not_lt.mpr (each schema member).2 negative).elim

end AsciiNames

end Catalogues

/--
The names that are made of ASCII ones for functions and parameters are spelled with lower case
letters, digits and underscores, and do not begin with a digit.  They can be used, none being an
underscore or a word of the language, but for two cases.  In the default domain an operator that
is unfit, that is without letters and digits or with a snake case form that is a reserved word
not escaped, gives its functions a name that cannot be used; so does an input that is unfit and
the first of its form to its parameter.  The files of a catalogue with ASCII names can be written
exactly if neither occurs and no version is negative, and when they cannot, it is for one of
these names or for the module of a negative version.
-/
theorem names_usable_iff {operator domain : String} {inputs : List String} {catalogue : Catalogue}
    (asciiOperator : Ascii operator) (asciiDomain : Ascii domain)
    (asciiInputs : ∀ input ∈ inputs, Ascii input)
    (asciiNames : ∀ schema ∈ catalogue.schemas, AsciiNamed schema) :
    (Spelled (functionName operator domain) ∧
      (Usable (functionName operator domain) ↔
        ¬(isDefaultDomain domain = true ∧ Unfit operator))) ∧
    (∀ index input, inputs[index]? = some input →
      ∃ name, (parameterNames inputs)[index]? = some name ∧ Spelled name ∧
        (Usable name ↔ ¬Unfit input ∨
          ∃ earlier ∈ inputs.take index, snakeCase earlier = snakeCase input)) ∧
    ((∃ written, files catalogue = .ok written) ↔
      ∀ schema ∈ catalogue.schemas, WellNamed schema ∧ 0 ≤ schema.sinceVersion.toInt) ∧
    ∀ fault, files catalogue = .error fault →
      ((fault = .noSyntax ∨ fault = .blankValue) ∧
          ∃ schema ∈ catalogue.schemas, ¬WellNamed schema) ∨
        ∃ schema ∈ catalogue.schemas, schema.sinceVersion.toInt < 0 ∧
          fault = .notIdentifier (moduleName schema.sinceVersion) := by
  refine ⟨⟨?_, ?_⟩, fun index input => ?_, ?_, fun fault => ?_⟩
  · exact spelled_functionName asciiOperator asciiDomain
  · exact usable_functionName_iff asciiOperator asciiDomain
  · exact usable_parameters asciiInputs
  · exact exists_files_iff asciiNames
  · exact files_eq_error asciiNames

/-- An operator with a keyword for its name, and inputs with a keyword, a digit first and a
local. -/
def keywordSchema : Schema :=
  { name := "Where", sinceVersion := 1
    minInput := 3, maxInput := 3, minOutput := 1, maxOutput := 1
    inputs := [.single "Type", .single "3D", .single "graph"]
    outputs := [.single "Y"] }

/-- Its names are made usable, and its files are written. -/
theorem keywords_usable :
    (Ascii "Where" ∧ Ascii "" ∧ Usable "where_") ∧
    ((∀ input ∈ ["Type", "3D", "graph"], Ascii input) ∧
      parameterNames ["Type", "3D", "graph"] = ["type_", "_3_d", "graph_"] ∧ Usable "_3_d") ∧
    (∀ schema ∈ (Catalogue.ofList [keywordSchema]).schemas, AsciiNamed schema) ∧
    ∃ written, files (.ofList [keywordSchema]) = .ok written := by
  have function : functionName "Where" "" = "where_" := by decide +kernel
  have names : parameterNames ["Type", "3D", "graph"] = ["type_", "_3_d", "graph_"] := by
    decide +kernel
  have inputs : ∀ input ∈ ["Type", "3D", "graph"], Ascii input := by decide
  have fit : ∀ input ∈ ["Where", "Type", "3D", "graph"], ¬Unfit input := by decide +kernel
  have schemas : (Catalogue.ofList [keywordSchema]).schemas = [keywordSchema] := rfl
  have ascii : ∀ schema ∈ (Catalogue.ofList [keywordSchema]).schemas, AsciiNamed schema := by
    rw [schemas, List.forall_mem_singleton]
    exact ⟨by decide, by decide, by decide⟩
  have wellNamed : ∀ schema ∈ (Catalogue.ofList [keywordSchema]).schemas,
      WellNamed schema ∧ 0 ≤ schema.sinceVersion.toInt := by
    rw [schemas, List.forall_mem_singleton]
    exact ⟨⟨fun both => fit "Where" (by decide) both.2, fun input member =>
      fit input.name (List.mem_cons_of_mem _ (List.mem_map_of_mem member))⟩, by decide⟩
  have operator : Ascii "Where" ∧ Ascii "" := by decide
  have ⟨⟨_, usable⟩, parameters, written, _⟩ :=
    names_usable_iff operator.1 operator.2 inputs ascii
  rcases parameters 1 "3D" rfl with ⟨name, isName, _, usableName⟩
  rw [names] at isName
  cases isName
  refine ⟨⟨operator.1, operator.2, ?_⟩, ⟨inputs, names, ?_⟩, ascii, written.mpr wellNamed⟩
  · exact function ▸ usable.mpr fun both => fit "Where" (by decide) both.2
  · exact usableName.mpr (.inl (fit "3D" (by decide)))

/-- An operator with a reserved word for its name. -/
def abstractSchema : Schema :=
  { name := "Abstract", sinceVersion := 1
    minInput := 1, maxInput := 1, minOutput := 1, maxOutput := 1
    inputs := [.single "X"]
    outputs := [.single "Y"] }

/-- The reserved word is not escaped, and the files of the operator have no syntax; an operator
without letters and digits has no name but an underscore. -/
theorem abstract_not_written :
    Ascii "Abstract" ∧ functionName "Abstract" "" = "abstract" ∧ ¬Usable "abstract" ∧
    files (.ofList [abstractSchema]) = .error .noSyntax ∧
    Ascii "---" ∧ functionName "---" "" = "_" ∧ ¬Usable "_" := by
  have one : versions (.ofList [abstractSchema]) = [1] := by
    rw [versions, List.mergeSort_of_pairwise (by decide)]
    decide
  refine ⟨by decide, by decide +kernel, fun usable => usable.free (by decide), ?_, by decide,
    by decide +kernel, fun usable => usable.notBlank rfl⟩
  rw [files, Bindings.ofCatalogue, one]
  decide +kernel

end OnnxForge.Binding

import OnnxForge.Proofs.Binding.Files

/-!
# Names of generated functions

A function is named for its operator alone, without a look at the names of the others. The
name keeps the letters and digits of the operator, all in lower case, and forgets which of
them were capitals and what stood between them. Operators that differ in more than that have
functions of different names, and no two functions of a file have one name as long as the
main file is free of such pairs and of operators that are named for its own functions.
-/

namespace OnnxForge.Text

/-! ## Lower case forms -/

theorem mem_of_shift?_eq_some {runs : List (CharRun × Int)} {code : Nat} {distance : Int}
    (found : CharRun.shift? runs code = some distance) :
    ∃ run, (run, distance) ∈ runs ∧ run.contains code = true := by
  induction runs with
  | nil => cases found
  | cons entry rest ih =>
      rcases entry with ⟨run, own⟩
      rw [CharRun.shift?] at found
      split at found
      next contained =>
        cases found
        exact ⟨run, List.mem_cons_self, contained⟩
      next =>
        rcases ih found with ⟨run, member, contained⟩
        exact ⟨run, List.mem_cons_of_mem _ member, contained⟩

theorem ofNat_ne_underscore {n : Nat} (above : '_'.toNat < n) : Char.ofNat n ≠ '_' := by
  intro same
  by_cases valid : n.isValidChar
  · have value : (Char.ofNat n).toNat = n := by
      rw [Char.ofNat, dif_pos valid]
      rfl
    rw [same] at value
    omega
  · rw [Char.ofNat, dif_neg valid] at same
    exact absurd same (by decide)

theorem lowerShift_above :
    ∀ entry ∈ Table.lowerShift, ('_'.toNat : Int) < entry.1.first + entry.2 := by
  decide +kernel

/-- No character but the underscore has it in its lower case form. -/
theorem underscore_notMem_lowerForm {c : Char} (other : c ≠ '_') : '_' ∉ lowerForm c := by
  rw [lowerForm]
  split
  · decide
  · cases shifted : CharRun.shift? Table.lowerShift c.toNat with
    | none => simpa using other.symm
    | some distance =>
        rcases mem_of_shift?_eq_some shifted with ⟨run, member, contained⟩
        have above := lowerShift_above (run, distance) member
        have least : run.first ≤ c.toNat := by
          simp only [CharRun.contains, Bool.and_eq_true, decide_eq_true_eq] at contained
          exact contained.1.1
        have code : '_'.toNat < (c.toNat + distance).toNat := by
          simp only at above
          omega
        intro member
        have same : '_' = Char.ofNat (c.toNat + distance).toNat := List.mem_singleton.mp member
        exact ofNat_ne_underscore code same.symm

end OnnxForge.Text

namespace OnnxForge.Binding

open Build Source

/-! ## Ends of names -/

/-- A text that ends in another character than an underscore. -/
def Ended (text : String) : Prop :=
  ∃ start last, text.toList = start ++ [last] ∧ last ≠ '_'

instance (text : String) : Decidable (Ended text) :=
  decidable_of_iff (text.toList.getLast?.any (· != '_') = true) <| by
    rw [Option.any_eq_true]
    constructor
    · rintro ⟨last, isLast, other⟩
      rcases List.getLast?_eq_some_iff.mp isLast with ⟨start, characters⟩
      exact ⟨start, last, characters, bne_iff_ne.mp other⟩
    · rintro ⟨start, last, characters, other⟩
      exact ⟨last, by simp [characters], bne_iff_ne.mpr other⟩

theorem Ended.ne_append {text : String} (ended : Ended text) (start : String) :
    text ≠ start ++ "_" := by
  rcases ended with ⟨before, last, characters, other⟩
  rintro rfl
  have same : start.toList ++ ['_'] = before ++ [last] := by simpa using characters
  exact other (List.cons.inj (List.append_inj' same rfl).2).1.symm

theorem Ended.append {text : String} (ended : Ended text) (start : String) :
    Ended (start ++ text) := by
  rcases ended with ⟨before, last, characters, other⟩
  exact ⟨start.toList ++ before, last, by simp [characters], other⟩

theorem trimUnderscores_cases (cs : List Char) :
    trimUnderscores cs = [] ∨
      ∃ start last, trimUnderscores cs = start ++ [last] ∧ last ≠ '_' := by
  rw [trimUnderscores]
  cases kept : (cs.dropWhile (· == '_')).reverse.dropWhile (· == '_') with
  | nil => exact .inl rfl
  | cons last rest =>
      refine .inr ⟨rest.reverse, last, List.reverse_cons, ?_⟩
      have head := List.head?_dropWhile_not (· == '_') (cs.dropWhile (· == '_')).reverse
      rw [kept] at head
      simpa using head

/-- Only the form of a text without letters and digits is an underscore. -/
theorem snakeCase_ended (name : String) : snakeCase name = "_" ∨ Ended (snakeCase name) := by
  rw [snakeCase]
  rcases trimUnderscores_cases (snakeChars none false name.toList) with
    nothing | ⟨start, last, characters, other⟩
  · exact .inl (by rw [nothing])
  · right
    cases trimmed : trimUnderscores (snakeChars none false name.toList) with
    | nil => simp [trimmed] at characters
    | cons first rest =>
        rw [trimmed] at characters
        by_cases digit : Text.isAsciiDigit first = true
        · exact ⟨'_' :: start, last, by simp [digit, characters], other⟩
        · exact ⟨start, last, by simp [digit, characters], other⟩

theorem keyword_ended : ∀ name ∈ keywords, Ended name := by
  decide

/-! ## Labels of operators -/

/-- The name of an operator in snake case, before it is made clear of keywords. -/
def label (operator domain : String) : String :=
  if isDefaultDomain domain then snakeCase operator
  else snakeCase domain ++ "_" ++ snakeCase operator

theorem functionName_eq (operator domain : String) :
    functionName operator domain = escape (label operator domain) :=
  rfl

/-- No label looks like a keyword that was made clear. -/
theorem label_ne_escaped {keyword : String} (isKeyword : keyword ∈ keywords)
    (operator domain : String) : label operator domain ≠ keyword ++ "_" := by
  rw [label]
  rcases snakeCase_ended operator with blank | ended
  · intro same
    rw [blank] at same
    split at same
    · have empty : "" = keyword := (String.append_left_inj "_").mp same
      exact absurd (empty ▸ isKeyword) (by decide)
    · have unended : snakeCase domain ++ "_" = keyword := (String.append_left_inj "_").mp same
      exact (keyword_ended keyword isKeyword).ne_append _ unended.symm
  · split
    · exact ended.ne_append _
    · exact (ended.append _).ne_append _

/-- Names are made clear of keywords without a clash among labels. -/
theorem functionName_eq_iff {operator domain other otherDomain : String} :
    functionName operator domain = functionName other otherDomain ↔
      label operator domain = label other otherDomain := by
  rw [functionName_eq, functionName_eq]
  refine ⟨fun same => ?_, congrArg escape⟩
  simp only [escape, List.contains_iff_mem] at same
  split at same
  next isKeyword =>
    split at same
    · exact (String.append_left_inj "_").mp same
    · exact (label_ne_escaped isKeyword other otherDomain same.symm).elim
  next =>
    split at same
    next isKeyword => exact (label_ne_escaped isKeyword operator domain same).elim
    next => exact same

/-- The functions of the main file itself. -/
def ownFunctions : List String :=
  ["input", "output"]

theorem ownFunctions_ended : ∀ name ∈ ownFunctions, Ended name ∧ name ∉ keywords := by
  decide

theorem functionName_mem_iff {operator domain : String} :
    functionName operator domain ∈ ownFunctions ↔ label operator domain ∈ ownFunctions := by
  rw [functionName_eq]
  simp only [escape, List.contains_iff_mem]
  split
  next isKeyword =>
    exact ⟨fun own => ((ownFunctions_ended _ own).1.ne_append _ rfl).elim,
      fun own => ((ownFunctions_ended _ own).2 isKeyword).elim⟩
  next => exact Iff.rfl

/-! ## Functions of files -/

/-- The function that is defined at a place. -/
def Landmark.defined? : Landmark → Option String
  | .defines function => some function
  | _ => none

/-- The functions that a file defines, in order. -/
def File.functions (file : File) : List String :=
  (outline file.code).filterMap Landmark.defined?

variable {catalogue : Catalogue}

/-- The functions that the file of a version defines. -/
def functionsOf (catalogue : Catalogue) (version : Int64) : List String :=
  (catalogue.schemas.filter fun schema => schema.sinceVersion == version).map fun schema =>
    functionName schema.name schema.domain

/-- The functions that the main file defines. -/
def mainFunctions (catalogue : Catalogue) : List String :=
  ownFunctions ++ (operatorsOf catalogue).map fun (operator, domain) =>
    functionName operator domain

theorem defined_versionOutline (version : Int64) :
    (versionOutline catalogue version).filterMap Landmark.defined? =
      functionsOf catalogue version := by
  rw [versionOutline, functionsOf, List.filterMap_flatMap, List.map_eq_flatMap]
  rfl

theorem Dispatcher.defined_outline (dispatcher : Dispatcher) :
    dispatcher.outline.filterMap Landmark.defined? = [dispatcher.name] := by
  have arms : (dispatcher.arms.flatMap armOutline).filterMap Landmark.defined? = [] :=
    List.filterMap_eq_nil_iff.mpr
      (dispatcher.forall_arms (fun _ => rfl) (fun _ _ => rfl) fun _ _ _ => rfl)
  change dispatcher.name :: (dispatcher.arms.flatMap armOutline ++
    [Landmark.arm "version"]).filterMap Landmark.defined? = _
  rw [List.filterMap_append, arms]
  rfl

theorem defined_mainOutline :
    (mainOutline catalogue).filterMap Landmark.defined? = mainFunctions catalogue := by
  have dispatchers : ((operatorsOf catalogue).flatMap fun (operator, domain) =>
      (Dispatcher.ofOperator catalogue operator domain).outline).filterMap Landmark.defined? =
      (operatorsOf catalogue).map fun (operator, domain) => functionName operator domain := by
    rw [List.filterMap_flatMap, List.map_eq_flatMap]
    simp only [Dispatcher.defined_outline]
    rfl
  have modules : (moduleOutline catalogue).filterMap Landmark.defined? = [] :=
    List.filterMap_eq_nil_iff.mpr (List.forall_mem_cons.mpr
      ⟨rfl, List.forall_mem_map.mpr fun _ _ => rfl⟩)
  rw [mainFunctions, ← dispatchers, mainOutline, List.filterMap_append, modules]
  rfl

theorem functions_of_files {written : List File} (generated : files catalogue = .ok written) :
    written.map (fun file => (file.name, file.functions)) =
      ((versions catalogue).map fun version =>
        (fileName (moduleName version), functionsOf catalogue version)) ++
      [(fileName "mod", mainFunctions catalogue), (fileName "op_helper", ["add_inputs"])] := by
  have outlined := congrArg (List.map fun entry =>
    (entry.1, entry.2.filterMap Landmark.defined?)) (outlines_of_files generated)
  rw [List.map_append, List.map_map] at outlined
  simpa [outlines, defined_versionOutline, defined_mainOutline, File.functions,
    Function.comp_def, Landmark.defined?] using outlined

/-! ## Clashes -/

/-- Operators that are told apart by their labels, and none of them by one of the functions of
the main file. -/
structure Apart (catalogue : Catalogue) : Prop where
  labels : ∀ first ∈ operatorsOf catalogue, ∀ second ∈ operatorsOf catalogue,
    label first.1 first.2 = label second.1 second.2 → first = second
  own : ∀ operator ∈ operatorsOf catalogue, label operator.1 operator.2 ∉ ownFunctions

/-- The functions of the main file have names of their own exactly if the operators are told
apart. -/
theorem nodup_mainFunctions_iff : (mainFunctions catalogue).Nodup ↔ Apart catalogue := by
  have names : ((operatorsOf catalogue).map fun (operator, domain) =>
      functionName operator domain).Nodup ↔
      ∀ first ∈ operatorsOf catalogue, ∀ second ∈ operatorsOf catalogue,
        label first.1 first.2 = label second.1 second.2 → first = second := by
    rw [List.nodup_map_iff_inj_on (nodup_operatorsOf catalogue)]
    simp only [functionName_eq_iff]
  have own : ownFunctions.Nodup := by decide
  rw [mainFunctions, List.nodup_append, names]
  constructor
  · rintro ⟨_, labels, disjoint⟩
    refine ⟨labels, fun operator member isOwn => ?_⟩
    exact disjoint _ (functionName_mem_iff.mpr isOwn) _ (List.mem_map_of_mem member) rfl
  · rintro ⟨labels, notOwn⟩
    refine ⟨own, labels, fun name isOwn other isOther same => ?_⟩
    rcases List.mem_map.mp isOther with ⟨operator, member, rfl⟩
    subst same
    exact notOwn operator member (functionName_mem_iff.mp isOwn)

/-- Within a version, functions have names of their own if the operators are told apart. -/
theorem Apart.nodup_functionsOf (apart : Apart catalogue) (version : Int64) :
    (functionsOf catalogue version).Nodup := by
  rw [functionsOf, List.nodup_map_iff_inj_on ((nodup_schemas catalogue).filter _)]
  intro first firstMember second secondMember same
  rcases List.mem_filter.mp firstMember with ⟨firstPresent, firstVersion⟩
  rcases List.mem_filter.mp secondMember with ⟨secondPresent, secondVersion⟩
  have operators := apart.labels _ (mem_operatorsOf.mpr ⟨first, firstPresent, rfl, rfl⟩) _
    (mem_operatorsOf.mpr ⟨second, secondPresent, rfl, rfl⟩) (functionName_eq_iff.mp same)
  rcases Prod.mk.inj operators with ⟨name, domain⟩
  exact Catalogue.eq_of_sameKey firstPresent secondPresent
    ⟨name, domain, (eq_of_beq firstVersion).trans (eq_of_beq secondVersion).symm⟩

/-- No file defines a function twice, exactly if the operators are told apart. -/
theorem nodup_functions_iff {written : List File} (generated : files catalogue = .ok written) :
    (∀ file ∈ written, file.functions.Nodup) ↔ Apart catalogue := by
  have functions := functions_of_files generated
  have each : (∀ file ∈ written, file.functions.Nodup) ↔
      ∀ entry ∈ written.map (fun file => (file.name, file.functions)), entry.2.Nodup := by
    rw [List.forall_mem_map]
  rw [each, functions, List.forall_mem_append, List.forall_mem_map, List.forall_mem_cons,
    List.forall_mem_singleton, nodup_mainFunctions_iff]
  constructor
  · rintro ⟨_, apart, _⟩
    exact apart
  · intro apart
    exact ⟨fun version _ => apart.nodup_functionsOf version, apart, List.nodup_singleton _⟩

/-! ## Letters and digits -/

/-- The letters and digits of a text, in lower case. -/
def letters (text : String) : List Char :=
  (text.toList.filter Text.isAlphanumeric).flatMap Text.lowerForm

theorem filter_snakeChars (previous : Option Char) (underscored : Bool) (cs : List Char) :
    (snakeChars previous underscored cs).filter (· != '_') =
      (cs.filter Text.isAlphanumeric).flatMap Text.lowerForm := by
  induction cs generalizing previous underscored with
  | nil => rfl
  | cons c rest ih =>
      rw [snakeChars]
      by_cases alphanumeric : Text.isAlphanumeric c = true
      · have kept : (Text.lowerForm c).filter (· != '_') = Text.lowerForm c := by
          refine List.filter_eq_self.mpr fun d member => bne_iff_ne.mpr ?_
          rintro rfl
          refine Text.underscore_notMem_lowerForm ?_ member
          rintro rfl
          exact absurd alphanumeric (by decide)
        rw [if_pos alphanumeric, List.filter_append, List.filter_append, ih, kept,
          List.filter_cons_of_pos alphanumeric, List.flatMap_cons]
        split <;> rfl
      · rw [if_neg alphanumeric, List.filter_append, ih, List.filter_cons_of_neg alphanumeric]
        split <;> rfl

theorem filter_dropWhile (cs : List Char) :
    (cs.dropWhile (· == '_')).filter (· != '_') = cs.filter (· != '_') := by
  induction cs with
  | nil => rfl
  | cons c rest ih =>
      by_cases underscore : c = '_'
      · simp [underscore, ih]
      · simp [underscore]

theorem filter_trimUnderscores (cs : List Char) :
    (trimUnderscores cs).filter (· != '_') = cs.filter (· != '_') := by
  rw [trimUnderscores, List.filter_reverse, filter_dropWhile, List.filter_reverse,
    filter_dropWhile, List.reverse_reverse]

/-- The snake case form of a name keeps its letters and digits. -/
theorem filter_snakeCase (name : String) :
    (snakeCase name).toList.filter (· != '_') = letters name := by
  have kept := filter_trimUnderscores (snakeChars none false name.toList)
  rw [filter_snakeChars] at kept
  rw [letters, ← kept, snakeCase]
  cases trimUnderscores (snakeChars none false name.toList) with
  | nil => rfl
  | cons first rest => by_cases digit : Text.isAsciiDigit first = true <;> simp [digit]

/-- The letters and digits that a function of an operator is named for. -/
def labelLetters (operator domain : String) : List Char :=
  (if isDefaultDomain domain then [] else letters domain) ++ letters operator

theorem filter_label (operator domain : String) :
    (label operator domain).toList.filter (· != '_') = labelLetters operator domain := by
  rw [label, labelLetters]
  split
  · exact filter_snakeCase operator
  · simp [filter_snakeCase]

/-- Operators are told apart if they differ in letters and digits, capital or not, and also
from the functions of the main file. -/
theorem Apart.of_letters
    (different : ∀ first ∈ operatorsOf catalogue, ∀ second ∈ operatorsOf catalogue,
      labelLetters first.1 first.2 = labelLetters second.1 second.2 → first = second)
    (own : ∀ operator ∈ operatorsOf catalogue,
      labelLetters operator.1 operator.2 ∉ ownFunctions.map String.toList) :
    Apart catalogue where
  labels first firstMember second secondMember same :=
    different first firstMember second secondMember <| by
      rw [← filter_label, ← filter_label, same]
  own operator member isOwn := own operator member <| by
    have plain : ∀ name ∈ ownFunctions, name.toList.filter (· != '_') = name.toList := by
      decide
    rw [← filter_label, plain _ isOwn]
    exact List.mem_map_of_mem isOwn

/--
The functions of every file have names of their own exactly if no two operators have one label
and none has that of a function of the main file.  Operators whose letters and digits differ,
capitals or not, from those of each other and of these functions, are told apart.
-/
theorem functions_distinct_iff {written : List File}
    (generated : files catalogue = .ok written) :
    ((∀ file ∈ written, file.functions.Nodup) ↔
      (∀ first ∈ operatorsOf catalogue, ∀ second ∈ operatorsOf catalogue,
        label first.1 first.2 = label second.1 second.2 → first = second) ∧
      ∀ operator ∈ operatorsOf catalogue, label operator.1 operator.2 ∉ ownFunctions) ∧
    ((∀ first ∈ operatorsOf catalogue, ∀ second ∈ operatorsOf catalogue,
        labelLetters first.1 first.2 = labelLetters second.1 second.2 → first = second) →
      (∀ operator ∈ operatorsOf catalogue,
        labelLetters operator.1 operator.2 ∉ ownFunctions.map String.toList) →
      ∀ file ∈ written, file.functions.Nodup) := by
  have distinct := nodup_functions_iff generated
  refine ⟨distinct.trans ⟨fun apart => ⟨apart.labels, apart.own⟩, fun ⟨labels, own⟩ =>
    ⟨labels, own⟩⟩, fun different own => distinct.mpr (.of_letters different own)⟩

/-- The functions of an operator of three versions. -/
theorem functions_distinct_absolute :
    ∃ written, files (.ofList Catalogue.Builtin.absVersions) = .ok written ∧
      ∀ file ∈ written, file.functions.Nodup := by
  rcases exists_files_absolute with ⟨written, generated⟩
  exact ⟨written, generated, (functions_distinct_iff generated).2 (by decide +kernel)
    (by decide +kernel)⟩

/-- An operator that is named like a function of the main file. -/
def inputSchema : Schema :=
  { name := "Input", sinceVersion := 1
    minInput := 1, maxInput := 1, minOutput := 1, maxOutput := 1
    inputs := [.single "X"]
    outputs := [.single "Y"] }

/-- The main file of that operator defines one function twice. -/
theorem input_defined_twice :
    ∃ written, files (.ofList [inputSchema]) = .ok written ∧
      ∃ file ∈ written, file.name = "mod.rs" ∧
        file.functions = ["input", "output", "input"] ∧ ¬file.functions.Nodup := by
  have one : versions (.ofList [inputSchema]) = [1] := by
    rw [versions, List.mergeSort_of_pairwise (by decide)]
    decide
  have accepted : (files (.ofList [inputSchema])).isOk = true := by
    rw [files, Bindings.ofCatalogue, one]
    decide +kernel
  rcases exists_of_isOk accepted with ⟨written, generated⟩
  have main : (fileName "mod", mainFunctions (.ofList [inputSchema])) ∈
      written.map fun file => (file.name, file.functions) := by
    rw [functions_of_files generated]
    exact List.mem_append_right _ List.mem_cons_self
  rcases List.mem_map.mp main with ⟨file, member, same⟩
  rcases Prod.mk.inj same with ⟨name, functions⟩
  have listed : file.functions = ["input", "output", "input"] :=
    functions.trans (by decide +kernel)
  exact ⟨written, generated, file, member, name, listed, by rw [listed]; decide⟩

end OnnxForge.Binding

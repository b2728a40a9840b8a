import OnnxForge.Proofs.Binding.Dispatch
import OnnxForge.Proofs.Binding.Outline
import OnnxForge.Proofs.Outcomes

/-!
# Files of bindings

The files of a catalogue that can be written are one for each version, the main file and
the file that the functions share. The schemas are sorted twice on the way, by version into
the files and by operator into the dispatchers, and every schema comes out once of each.
-/

namespace OnnxForge.Binding

open Build Source

variable {catalogue : Catalogue}

/-! ## Orders of a catalogue -/

theorem mem_versions {version : Int64} :
    version ∈ versions catalogue ↔
      ∃ schema ∈ catalogue.schemas, schema.sinceVersion = version := by
  rw [versions, mem_eraseReps, List.mem_mergeSort, List.mem_map]

theorem versions_increasing (catalogue : Catalogue) :
    (versions catalogue).Pairwise (· < ·) := by
  refine pairwise_eraseReps Int64.lt_trans ?_
  have sorted : ((catalogue.schemas.map (·.sinceVersion)).mergeSort fun a b =>
      decide (a ≤ b)).Pairwise fun a b => decide (a ≤ b) = true :=
    List.pairwise_mergeSort (by simpa using fun _ _ _ => Int64.le_trans)
      (by simpa using Int64.le_total) _
  refine sorted.imp fun {a b} ascending => ?_
  have atMost : a ≤ b := of_decide_eq_true ascending
  by_cases same : a = b
  · exact .inl same
  · exact .inr (Int64.lt_of_le_of_ne atMost same)

/-- Schemas stand in order, so none of them comes twice. -/
theorem nodup_schemas (catalogue : Catalogue) : catalogue.schemas.Nodup := by
  refine catalogue.sorted.imp ?_
  rintro a _ before rfl
  exact Schema.not_precedes_of_sameKey ⟨rfl, rfl, rfl⟩ before

/-- The schemas of an operator are neighbours, so its dispatcher comes once. -/
theorem nodup_operatorsOf (catalogue : Catalogue) : (operatorsOf catalogue).Nodup := by
  let Before (a b : String × String) : Prop := a.1 < b.1 ∨ a.1 = b.1 ∧ a.2 < b.2
  have ordered : (operatorsOf catalogue).Pairwise Before := by
    refine pairwise_eraseReps ?_ ?_
    · rintro a b c (name | ⟨name, domain⟩) (other | ⟨other, following⟩)
      · exact .inl (String.lt_trans name other)
      · exact .inl (other ▸ name)
      · exact .inl (name ▸ other)
      · exact .inr ⟨name.trans other, String.lt_trans domain following⟩
    · refine List.pairwise_map.mpr (catalogue.sorted.imp ?_)
      rintro a b (name | ⟨name, domain | ⟨domain, _⟩⟩)
      · exact .inr (.inl name)
      · exact .inr (.inr ⟨name, domain⟩)
      · exact .inl (Prod.ext name domain)
  refine ordered.imp ?_
  rintro a _ before rfl
  rcases before with less | ⟨_, less⟩ <;> exact String.lt_irrefl _ less

/-! ## Files that can be written -/

theorem checkIdentifiers_eq_ok {names : List String} :
    checkIdentifiers names = .ok () ↔ ∀ name ∈ names, isIdentifier name = true := by
  rw [checkIdentifiers]
  cases found : names.find? fun name => !isIdentifier name with
  | none => simpa using found
  | some name =>
      have member := List.mem_of_find?_eq_some found
      have unfit := List.find?_some found
      exact ⟨nofun, fun fit => by simp [fit name member] at unfit⟩

/-- The module of a version can be named only if the version is not negative. -/
theorem version_nonneg {version : Int64} (named : isIdentifier (moduleName version) = true) :
    0 ≤ version.toInt := by
  rw [moduleName] at named
  cases value : version.toInt with
  | ofNat n => exact Int.natCast_nonneg n
  | negSucc n =>
      rw [value] at named
      have fit : ∀ c ∈ (Text.integer (.negSucc n)).toList, Text.isIdentifierContinue c := by
        intro c member
        simp only [isIdentifier, String.toList_append] at named
        exact List.all_eq_true.mp (Bool.and_eq_true_iff.mp named).2 c
          (List.mem_append_right _ member)
      have sign : '-' ∈ (Text.integer (.negSucc n)).toList := by simp [Text.integer]
      exact absurd (fit '-' sign) (by decide)

theorem VersionModule.file_eq_ok {module : VersionModule} {file : File}
    (accepted : module.file = .ok file) :
    file = ⟨fileName (moduleName module.version), module.code⟩ := by
  rw [VersionModule.file] at accepted
  rcases Attempt.outcome_bind_eq_ok.mp accepted with ⟨_, _, following⟩
  split at following
  · split at following <;> cases following
  · split at following
    · cases following
    · cases following
      rfl

theorem Bindings.mainFile_eq_ok {bindings : Bindings} {file : File}
    (accepted : bindings.mainFile = .ok file) :
    file = ⟨fileName "mod", bindings.code⟩ ∧
      ∀ module ∈ bindings.modules, 0 ≤ module.version.toInt := by
  rw [mainFile] at accepted
  rcases Attempt.outcome_bind_eq_ok.mp accepted with ⟨_, checked, following⟩
  split at following
  · cases following
  · cases following
    have named := List.forall_mem_map.mp (checkIdentifiers_eq_ok.mp checked)
    exact ⟨rfl, fun module member => version_nonneg (named module member)⟩

/-- Bindings that can be written are written as they are, and no version is negative. -/
theorem Bindings.files_eq_ok {bindings : Bindings} {written : List File}
    (accepted : bindings.files = .ok written) :
    written =
        bindings.modules.map
          (fun module => ⟨fileName (moduleName module.version), module.code⟩) ++
        [⟨fileName "mod", bindings.code⟩, ⟨fileName "op_helper", helperCode⟩] ∧
      ∀ module ∈ bindings.modules, 0 ≤ module.version.toInt := by
  rcases Attempt.outcome_bind_eq_ok.mp accepted with ⟨modules, eachModule, following⟩
  rcases Attempt.outcome_bind_eq_ok.mp following with ⟨main, mainAccepted, done⟩
  cases done
  rcases mainFile_eq_ok mainAccepted with ⟨rfl, versions⟩
  have same := map_eq_of_mapM_eq_ok (fun accepted => VersionModule.file_eq_ok accepted) eachModule
  rw [List.map_id'] at same
  exact ⟨by rw [same], versions⟩

/-! ## Outlines of files -/

/-- Files with the outlines of their code. -/
def outlines (written : List File) : List (String × List Landmark) :=
  written.map fun file => (file.name, outline file.code)

/-- What the file of a version is expected to have: the functions of its schemas. -/
def versionOutline (catalogue : Catalogue) (version : Int64) : List Landmark :=
  (catalogue.schemas.filter fun schema => schema.sinceVersion == version).flatMap
    fun schema => (Function.ofSchema schema).outline

/-- The modules that the main file is expected to declare: those of all other files. -/
def moduleOutline (catalogue : Catalogue) : List Landmark :=
  including "op_helper" :: (versions catalogue).map fun version => including (moduleName version)

/-- What the main file is expected to have: the modules of the other files and the dispatchers of
the operators. -/
def mainOutline (catalogue : Catalogue) : List Landmark :=
  moduleOutline catalogue ++ .defines "input" :: .defines "output" ::
    (operatorsOf catalogue).flatMap fun (operator, domain) =>
      (Dispatcher.ofOperator catalogue operator domain).outline

section Outlines

variable (positive : ∀ schema ∈ catalogue.schemas, 0 ≤ schema.sinceVersion.toInt)

include positive

theorem outline_ofVersion (version : Int64) :
    outline (VersionModule.ofVersion catalogue version).code =
      versionOutline catalogue version := by
  have functions : ∀ function ∈ (VersionModule.ofVersion catalogue version).functions,
      0 ≤ function.version.toInt := by
    intro function member
    rcases List.mem_map.mp member with ⟨schema, ofVersion, rfl⟩
    exact positive schema (List.mem_filter.mp ofVersion).1
  rw [(VersionModule.reads_code functions).outline_eq, VersionModule.ofVersion, List.flatMap_map]
  rfl

theorem outline_ofCatalogue :
    outline (Bindings.ofCatalogue catalogue).code = mainOutline catalogue := by
  have arms : ∀ dispatcher ∈ (Bindings.ofCatalogue catalogue).dispatchers,
      ∀ function ∈ dispatcher.arms, 0 ≤ function.version.toInt := by
    intro dispatcher generated function member
    rcases mem_dispatchers.mp generated with ⟨_, _, rfl⟩
    rcases List.mem_map.mp member with ⟨schema, versionOf, rfl⟩
    exact positive schema (Catalogue.mem_versionsOf.mp versionOf).1
  rw [(Bindings.reads_code arms).outline_eq, Bindings.ofCatalogue, List.flatMap_map, List.map_map]
  rfl

end Outlines

/-- The files have what they are expected to, in the order of the versions. -/
theorem outlines_of_files {written : List File} (generated : files catalogue = .ok written) :
    outlines written =
      ((versions catalogue).map fun version =>
        (fileName (moduleName version), versionOutline catalogue version)) ++
      [(fileName "mod", mainOutline catalogue),
        (fileName "op_helper", [.defines "add_inputs"])] := by
  rcases Bindings.files_eq_ok generated with ⟨rfl, nonnegative⟩
  have positive : ∀ schema ∈ catalogue.schemas, 0 ≤ schema.sinceVersion.toInt := by
    intro schema member
    exact nonnegative (.ofVersion catalogue schema.sinceVersion)
      (List.mem_map_of_mem (mem_versions.mpr ⟨schema, member, rfl⟩))
  have modules : outlines ((Bindings.ofCatalogue catalogue).modules.map fun module =>
      ⟨fileName (moduleName module.version), module.code⟩) =
      (versions catalogue).map fun version =>
        (fileName (moduleName version), versionOutline catalogue version) := by
    rw [outlines, Bindings.ofCatalogue, List.map_map, List.map_map]
    exact List.map_congr_left fun version _ => congrArg _ (outline_ofVersion positive version)
  rw [← modules, ← outline_ofCatalogue positive, ← reads_helperCode.outline_eq]
  exact List.map_append

/-! ## Every schema once -/

/-- The files that a landmark stands in, once for each time that it does. -/
def sites (outlined : List (String × List Landmark)) (landmark : Landmark) : List String :=
  outlined.flatMap fun (name, landmarks) => (landmarks.filter (· == landmark)).map fun _ => name

theorem sites_append (first second : List (String × List Landmark)) (landmark : Landmark) :
    sites (first ++ second) landmark = sites first landmark ++ sites second landmark :=
  List.flatMap_append

/-- One item of a list without repetitions gives what none of the others gives. -/
theorem flatMap_eq_of_alone {α β : Type} {items : List α} {found : α → List β} {item : α}
    (nodup : items.Nodup) (member : item ∈ items)
    (alone : ∀ other ∈ items, other ≠ item → found other = []) :
    items.flatMap found = found item := by
  induction items with
  | nil => cases member
  | cons first rest ih =>
      rcases List.nodup_cons.mp nodup with ⟨fresh, nodupRest⟩
      rcases List.forall_mem_cons.mp alone with ⟨firstAlone, restAlone⟩
      rw [List.flatMap_cons]
      rcases List.mem_cons.mp member with rfl | later
      · have nothing : rest.flatMap found = [] :=
          List.flatMap_eq_nil_iff.mpr fun other present =>
            restAlone other present fun same => fresh (same ▸ present)
        rw [nothing, List.append_nil]
      · rw [firstAlone fun same => fresh (same ▸ later), ih nodupRest later restAlone]
        rfl

/-- The place where the function of a schema makes a node. -/
def Function.making (schema : Schema) : Landmark :=
  .makes schema.name schema.domain (numeral schema.sinceVersion)

theorem numeral_injective {first second : Int64} (same : numeral first = numeral second) :
    first = second :=
  Int64.toInt_inj.mp (Text.integer_injective same)

theorem Function.making_injective {schema other : Schema} (member : schema ∈ catalogue.schemas)
    (otherMember : other ∈ catalogue.schemas) (same : making other = making schema) :
    other = schema := by
  rcases Landmark.makes.inj same with ⟨name, domain, version⟩
  exact Catalogue.eq_of_sameKey otherMember member ⟨name, domain, numeral_injective version⟩

/-- Within its version, a schema has one function, and no other makes its nodes. -/
theorem filter_versionOutline {schema : Schema} (member : schema ∈ catalogue.schemas)
    (version : Int64) :
    (versionOutline catalogue version).filter (· == Function.making schema) =
      if version = schema.sinceVersion then [Function.making schema] else [] := by
  have alone : ∀ other ∈ catalogue.schemas, other ≠ schema →
      (Function.ofSchema other).outline.filter (· == Function.making schema) = [] := by
    intro other otherMember different
    have otherMaking : Function.making other ≠ Function.making schema := fun same =>
      different (Function.making_injective member otherMember same)
    simpa [Function.outline, Function.making, Function.ofSchema] using otherMaking
  rw [versionOutline, List.filter_flatMap]
  split
  next same =>
    rw [flatMap_eq_of_alone ((nodup_schemas catalogue).filter _)
      (List.mem_filter.mpr ⟨member, by simp [same]⟩)
      fun other present => alone other (List.mem_filter.mp present).1]
    simp [Function.outline, Function.making, Function.ofSchema]
  next different =>
    refine List.flatMap_eq_nil_iff.mpr fun other present => ?_
    rcases List.mem_filter.mp present with ⟨otherMember, ofVersion⟩
    refine alone other otherMember ?_
    rintro rfl
    exact different (eq_of_beq ofVersion).symm

/-- Dispatchers leave it to functions to make nodes. -/
theorem Dispatcher.filter_outline_makes (dispatcher : Dispatcher)
    (operator domain version : String) :
    dispatcher.outline.filter (· == .makes operator domain version) = [] :=
  List.filter_eq_nil_iff.mpr
    (dispatcher.forall_outline (by simp) (by simp) (by simp) (by simp) (by simp))

theorem Dispatcher.filter_outline_includes (dispatcher : Dispatcher) (module file : String) :
    dispatcher.outline.filter (· == .includes module file) = [] :=
  List.filter_eq_nil_iff.mpr
    (dispatcher.forall_outline (by simp) (by simp) (by simp) (by simp) (by simp))

/-- A dispatcher resolves the version of its own operator, once. -/
theorem Dispatcher.filter_outline_resolves (dispatcher : Dispatcher)
    (operator domain : String) :
    dispatcher.outline.filter (· == .resolves operator domain) =
      if dispatcher.operator = operator ∧ dispatcher.domain = domain then
        [.resolves operator domain] else [] := by
  have arms : (dispatcher.arms.flatMap armOutline).filter
      (· == .resolves operator domain) = [] :=
    List.filter_eq_nil_iff.mpr (dispatcher.forall_arms (by simp) (by simp) (by simp))
  split
  next same => simp [outline, arms, same.1, same.2]
  next different => simp [outline, arms, different]

/-- Declarations of modules are no other places of interest. -/
theorem filter_moduleOutline {landmark : Landmark} (other : ∀ module, including module ≠ landmark) :
    (moduleOutline catalogue).filter (· == landmark) = [] := by
  refine List.filter_eq_nil_iff.mpr (List.forall_mem_cons.mpr ⟨?_, ?_⟩)
  · exact beq_iff_eq.not.mpr (other _)
  · exact List.forall_mem_map.mpr fun version _ => beq_iff_eq.not.mpr (other _)

/-- The node of a schema is made in the file of its version, and nowhere else. -/
theorem sites_making {written : List File} (generated : files catalogue = .ok written)
    {schema : Schema} (member : schema ∈ catalogue.schemas) :
    sites (outlines written) (Function.making schema) =
      [fileName (moduleName schema.sinceVersion)] := by
  have main : (mainOutline catalogue).filter (· == Function.making schema) = [] := by
    rw [mainOutline, List.filter_append,
      filter_moduleOutline (by simp [including, Function.making])]
    simp [Function.making, List.filter_flatMap, Dispatcher.filter_outline_makes]
  rw [outlines_of_files generated, sites_append, sites, List.flatMap_map]
  simp only [filter_versionOutline member]
  rw [flatMap_eq_of_alone ((versions_increasing catalogue).imp Int64.ne_of_lt)
    (mem_versions.mpr ⟨schema, member, rfl⟩) fun version _ different => by simp [different]]
  have shared : [Landmark.defines "add_inputs"].filter (· == Function.making schema) = [] := by
    simp [Function.making]
  simp only [sites, List.flatMap_cons, List.flatMap_nil, main, shared]
  rfl

theorem moduleName_injective {first second : Int64} (same : moduleName first = moduleName second) :
    first = second :=
  numeral_injective ((String.append_right_inj _).mp same)

/-- The module of a version is declared once. -/
theorem filter_moduleOutline_including {version : Int64} (member : version ∈ versions catalogue) :
    (moduleOutline catalogue).filter (· == including (moduleName version)) =
      [including (moduleName version)] := by
  have shared : ¬ (including "op_helper" == including (moduleName version)) = true := by
    rw [beq_iff_eq]
    intro same
    have fourth := congrArg (fun text : String => text.toList[3]?) (Landmark.includes.inj same).1
    simp [moduleName] at fourth
  have own : ∀ other, (including (moduleName other) == including (moduleName version)) =
      (other == version) := by
    intro other
    rw [Bool.eq_iff_iff, beq_iff_eq, beq_iff_eq]
    exact ⟨fun same => moduleName_injective (Landmark.includes.inj same).1,
      fun same => same ▸ rfl⟩
  have nodup : (versions catalogue).Nodup :=
    (versions_increasing catalogue).imp Int64.ne_of_lt
  rw [moduleOutline, List.filter_cons, if_neg shared, List.filter_map]
  simp only [Function.comp_def, own]
  rw [List.filter_beq, List.count_eq_one_of_mem nodup member]
  rfl

/-- The module of a version is declared in the main file, and nowhere else. -/
theorem sites_including {written : List File} (generated : files catalogue = .ok written)
    {schema : Schema} (member : schema ∈ catalogue.schemas) :
    sites (outlines written) (including (moduleName schema.sinceVersion)) = [fileName "mod"] := by
  have modules : ∀ version, (versionOutline catalogue version).filter
      (· == including (moduleName schema.sinceVersion)) = [] := by
    intro version
    simp [versionOutline, List.filter_flatMap, Function.outline, including]
  have main : (mainOutline catalogue).filter (· == including (moduleName schema.sinceVersion)) =
      [including (moduleName schema.sinceVersion)] := by
    have dispatchers : (.defines "input" :: .defines "output" ::
        (operatorsOf catalogue).flatMap fun (operator, domain) =>
          (Dispatcher.ofOperator catalogue operator domain).outline).filter
        (· == including (moduleName schema.sinceVersion)) = [] := by
      simp [including, List.filter_flatMap, Dispatcher.filter_outline_includes]
    rw [mainOutline, List.filter_append, dispatchers, List.append_nil,
      filter_moduleOutline_including (mem_versions.mpr ⟨schema, member, rfl⟩)]
  have shared : [Landmark.defines "add_inputs"].filter
      (· == including (moduleName schema.sinceVersion)) = [] := by
    simp [including]
  rw [outlines_of_files generated, sites_append, sites, List.flatMap_map]
  simp only [modules, sites, main, shared, List.map_nil, List.flatMap_cons, List.flatMap_nil]
  simp

/-- The version of an operator is resolved in one dispatcher of the main file. -/
theorem sites_resolving {written : List File} (generated : files catalogue = .ok written)
    {schema : Schema} (member : schema ∈ catalogue.schemas) :
    sites (outlines written) (.resolves schema.name schema.domain) = [fileName "mod"] := by
  have modules : ∀ version, (versionOutline catalogue version).filter
      (· == .resolves schema.name schema.domain) = [] := by
    intro version
    simp [versionOutline, List.filter_flatMap, Function.outline]
  have main : (mainOutline catalogue).filter (· == .resolves schema.name schema.domain) =
      [.resolves schema.name schema.domain] := by
    rw [mainOutline, List.filter_append, filter_moduleOutline (by simp [including]),
      List.nil_append, List.filter_cons_of_neg (by simp), List.filter_cons_of_neg (by simp),
      List.filter_flatMap]
    simp only [Dispatcher.filter_outline_resolves]
    rw [flatMap_eq_of_alone (nodup_operatorsOf catalogue)
      (mem_operatorsOf.mpr ⟨schema, member, rfl, rfl⟩) fun other _ different =>
        if_neg fun same => different (Prod.ext same.1 same.2)]
    exact if_pos ⟨rfl, rfl⟩
  rw [outlines_of_files generated, sites_append, sites, List.flatMap_map]
  simp [modules, sites, main]

/-- Among the arms of a dispatcher, the label of a version stands once. -/
theorem filter_arms {schema : Schema} (member : schema ∈ catalogue.schemas) :
    (Dispatcher.ofOperator catalogue schema.name schema.domain).arms.filter
      (·.version == schema.sinceVersion) = [.ofSchema schema] := by
  have listed : schema ∈ catalogue.versionsOf schema.name schema.domain :=
    Catalogue.mem_versionsOf.mpr ⟨member, rfl, rfl⟩
  have nodup : (catalogue.versionsOf schema.name schema.domain).Nodup :=
    (nodup_schemas catalogue).filter _
  have alone : (catalogue.versionsOf schema.name schema.domain).filter
      (·.sinceVersion == schema.sinceVersion) = [schema] := by
    have same : ∀ other ∈ catalogue.versionsOf schema.name schema.domain,
        (other.sinceVersion == schema.sinceVersion) = (other == schema) := by
      intro other present
      have ⟨otherMember, name, domain⟩ := Catalogue.mem_versionsOf.mp present
      rw [Bool.eq_iff_iff, beq_iff_eq, beq_iff_eq]
      exact ⟨fun version => Catalogue.eq_of_sameKey otherMember member ⟨name, domain, version⟩,
        congrArg _⟩
    rw [List.filter_congr same, List.filter_beq, List.count_eq_one_of_mem nodup listed]
    rfl
  rw [Dispatcher.ofOperator, List.filter_map]
  exact congrArg (List.map Function.ofSchema) alone

theorem arms_increasing (catalogue : Catalogue) (operator domain : String) :
    ((Dispatcher.ofOperator catalogue operator domain).arms.map (·.version)).Pairwise
      (· < ·) := by
  rw [Dispatcher.ofOperator, List.map_map, List.pairwise_map]
  exact catalogue.versionsOf_increasing operator domain

/-- What files make of a catalogue. -/
structure Covers (catalogue : Catalogue) (written : List File) : Prop where
  /-- The files have these names and outlines, in this order. -/
  outlined : outlines written =
    ((versions catalogue).map fun version =>
      (fileName (moduleName version), versionOutline catalogue version)) ++
    [(fileName "mod", mainOutline catalogue), (fileName "op_helper", [.defines "add_inputs"])]
  /-- The versions of the files are those of the schemas, in increasing order. -/
  versions : (versions catalogue).Pairwise (· < ·) ∧
    ∀ version, version ∈ versions catalogue ↔
      ∃ schema ∈ catalogue.schemas, schema.sinceVersion = version
  /-- The module of a version is declared in one place, which is in the main file. -/
  module : ∀ schema ∈ catalogue.schemas,
    sites (outlines written) (including (moduleName schema.sinceVersion)) = [fileName "mod"]
  /-- A node of a schema is made in one place, which is in the file of its version. -/
  function : ∀ schema ∈ catalogue.schemas,
    sites (outlines written) (Function.making schema) =
      [fileName (moduleName schema.sinceVersion)]
  /-- The version of an operator is resolved in one place, which is in the main file. -/
  dispatcher : ∀ schema ∈ catalogue.schemas,
    sites (outlines written) (.resolves schema.name schema.domain) = [fileName "mod"]
  /-- The dispatcher there has one arm with the version of a schema, for its function. -/
  arm : ∀ schema ∈ catalogue.schemas,
    (Dispatcher.ofOperator catalogue schema.name schema.domain).arms.filter
      (·.version == schema.sinceVersion) = [.ofSchema schema]
  /-- The versions of the arms of a dispatcher increase. -/
  arms : ∀ operator domain,
    ((Dispatcher.ofOperator catalogue operator domain).arms.map (·.version)).Pairwise (· < ·)
  /-- The parameters of a function stand for the declared inputs, in order. -/
  parameters : ∀ schema ∈ catalogue.schemas,
    (Function.ofSchema schema).parameters.map (·.name) =
      parameterNames (schema.inputs.map (·.name)) ∧
    (Function.ofSchema schema).parameters.map (·.kind) =
      schema.inputs.zipIdx.map fun (input, index) => Function.kindOf schema input index
  /-- On a graph over the catalogue, every version in effect has an arm. -/
  effective : ∀ builder : Builder, builder.catalogue = catalogue →
    ∀ operator domain schema, builder.resolve operator domain = .ok schema →
      (Dispatcher.ofOperator catalogue operator domain).armOf schema.sinceVersion =
        .ok (.ofSchema schema)

/--
Wherever the files of a catalogue can be written, every schema has one function in the file of
its version, which makes nodes of its operator and version, and one arm in the dispatcher of
its operator, which hands the arguments to that function.  Other versions than those of the
arms are never in effect.
-/
theorem files_cover {written : List File} (generated : files catalogue = .ok written) :
    Covers catalogue written where
  outlined := outlines_of_files generated
  versions := ⟨versions_increasing catalogue, fun _ => mem_versions⟩
  module _ member := sites_including generated member
  function _ member := sites_making generated member
  dispatcher _ member := sites_resolving generated member
  arm _ member := filter_arms member
  arms := arms_increasing catalogue
  parameters schema _ :=
    ⟨Function.names_parametersOf schema, Function.kinds_parametersOf schema⟩
  effective := by
    rintro builder rfl operator domain schema resolved
    exact Dispatcher.armOf_resolved (Builder.resolve_eq_ok.mp resolved)

theorem versions_absolute : versions (.ofList Catalogue.Builtin.absVersions) = [1, 6, 13] := by
  rw [versions, List.mergeSort_of_pairwise (by decide)]
  decide

theorem exists_files_absolute :
    ∃ written, files (.ofList Catalogue.Builtin.absVersions) = .ok written := by
  have accepted : (files (.ofList Catalogue.Builtin.absVersions)).isOk = true := by
    rw [files, Bindings.ofCatalogue, versions_absolute]
    decide +kernel
  exact exists_of_isOk accepted

/-- The files of an operator of three versions. -/
theorem files_cover_absolute :
    ∃ written, files (.ofList Catalogue.Builtin.absVersions) = .ok written ∧
      (outlines written).map (·.1) =
        ["op_ver_1.rs", "op_ver_6.rs", "op_ver_13.rs", "mod.rs", "op_helper.rs"] := by
  rcases exists_files_absolute with ⟨written, generated⟩
  refine ⟨written, generated, ?_⟩
  rw [(files_cover generated).outlined, versions_absolute]
  decide +kernel

end OnnxForge.Binding

import OnnxForge.Schema

/-!
# Catalogues

A catalogue holds the schemas of operators over all versions of their operator sets,
in increasing order and one for each operator and version. The version of an operator
in effect at a version of its operator set is the greatest that is not above it.
-/

namespace OnnxForge

namespace Catalogue

/-- The schemas with one more, unless one of its operator and version is there. -/
def insertSchema (schema : Schema) : List Schema → List Schema
  | [] => [schema]
  | first :: rest =>
    if schema.Precedes first then schema :: first :: rest
    else if schema.SameKey first then first :: rest
    else first :: insertSchema schema rest

theorem mem_insertSchema {schema other : Schema} {schemas : List Schema}
    (member : other ∈ insertSchema schema schemas) : other = schema ∨ other ∈ schemas := by
  induction schemas with
  | nil => simpa [insertSchema] using member
  | cons first rest ih =>
    rw [insertSchema] at member
    split at member
    · simpa using member
    · split at member
      · exact .inr member
      · rcases List.mem_cons.1 member with same | later
        · exact .inr (same ▸ List.mem_cons_self)
        · exact (ih later).imp id (List.mem_cons_of_mem _)

theorem insertSchema_sorted {schema : Schema} {schemas : List Schema}
    (sorted : schemas.Pairwise Schema.Precedes) :
    (insertSchema schema schemas).Pairwise Schema.Precedes := by
  induction schemas with
  | nil => simp [insertSchema]
  | cons first rest ih =>
    have ⟨least, sortedRest⟩ := List.pairwise_cons.1 sorted
    rw [insertSchema]
    split
    next before =>
      refine List.pairwise_cons.2 ⟨fun other member => ?_, sorted⟩
      rcases List.mem_cons.1 member with same | later
      · exact same ▸ before
      · exact before.trans (least other later)
    next notBefore =>
      split
      · exact sorted
      next different =>
        refine List.pairwise_cons.2 ⟨fun other member => ?_, ih sortedRest⟩
        rcases mem_insertSchema member with same | later
        · exact same ▸ Schema.precedes_of_not notBefore different
        · exact least other later

end Catalogue

/-- Schemas in increasing order. -/
structure Catalogue where
  schemas : List Schema
  sorted : schemas.Pairwise Schema.Precedes

namespace Catalogue

/-- The catalogue without schemas. -/
def empty : Catalogue := ⟨[], .nil⟩

/-- Adds a schema, unless one of its operator and version is there. -/
def insert (catalogue : Catalogue) (schema : Schema) : Catalogue :=
  ⟨insertSchema schema catalogue.schemas, insertSchema_sorted catalogue.sorted⟩

/-- The catalogue of a list of schemas, the first of which counts for each operator and
version. -/
def ofList (schemas : List Schema) : Catalogue :=
  schemas.foldl insert empty

/-- The schemas of an operator, by increasing version. -/
def versionsOf (catalogue : Catalogue) (name domain : String) : List Schema :=
  catalogue.schemas.filter fun schema => schema.isOf name domain

/-- The schema of an operator that came with exactly that version. -/
def get? (catalogue : Catalogue) (name : String) (version : Int64) (domain : String) :
    Option Schema :=
  (catalogue.versionsOf name domain).find? fun schema => schema.sinceVersion == version

/-- The schema of an operator in effect at a version. -/
def resolve? (catalogue : Catalogue) (name : String) (version : Int64) (domain : String) :
    Option Schema :=
  ((catalogue.versionsOf name domain).takeWhile fun schema =>
    decide (schema.sinceVersion ≤ version)).getLast?

/-- The versions of an operator, increasing. -/
def sinceVersions (catalogue : Catalogue) (name domain : String) : List Int64 :=
  (catalogue.versionsOf name domain).map (·.sinceVersion)

/-- The names of the operators, in order. -/
def operatorNames (catalogue : Catalogue) : List String :=
  (catalogue.schemas.map (·.name)).eraseReps

/-- The greatest version of any schema; one without schemas. -/
def latestVersion (catalogue : Catalogue) : Int64 :=
  (catalogue.schemas.map (·.sinceVersion)).max?.getD 1

/-- The number of schemas. -/
def size (catalogue : Catalogue) : Nat :=
  catalogue.schemas.length

/-- A catalogue of a list has no schemas of its own. -/
theorem mem_of_mem_ofList {schema : Schema} {schemas : List Schema}
    (member : schema ∈ (ofList schemas).schemas) : schema ∈ schemas := by
  have fromEither : ∀ catalogue : Catalogue,
      schema ∈ (schemas.foldl insert catalogue).schemas →
        schema ∈ schemas ∨ schema ∈ catalogue.schemas := by
    clear member
    induction schemas with
    | nil => exact fun _ already => .inr already
    | cons first rest ih =>
      intro catalogue member
      rcases ih (catalogue.insert first) member with later | inserted
      · exact .inl (List.mem_cons_of_mem _ later)
      · rcases mem_insertSchema inserted with same | already
        · exact .inl (same ▸ List.mem_cons_self)
        · exact .inr already
  exact (fromEither empty member).resolve_right List.not_mem_nil

theorem mem_of_get?_eq_some {catalogue : Catalogue} {name domain : String} {version : Int64}
    {schema : Schema} (found : catalogue.get? name version domain = some schema) :
    schema ∈ catalogue.schemas ∧ schema.name = name := by
  have member := List.mem_filter.1 (List.mem_of_find?_eq_some found)
  refine ⟨member.1, ?_⟩
  have isOf := member.2
  rw [Schema.isOf, Bool.and_eq_true] at isOf
  exact eq_of_beq isOf.1

end Catalogue

end OnnxForge

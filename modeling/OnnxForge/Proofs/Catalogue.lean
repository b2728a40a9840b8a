import Mathlib.Data.List.Chain
import OnnxForge.Catalogue.Builtin

/-!
# Looking schemas up

A catalogue has one schema for each operator and version, and the versions of an operator
increase. A lookup by version is therefore membership, and the schema in effect at a
version is found again under the version that it came with.
-/

namespace OnnxForge

namespace Schema

theorem isOf_iff {schema : Schema} {name domain : String} :
    schema.isOf name domain = true ↔ schema.name = name ∧ schema.domain = domain := by
  simp [isOf]

theorem not_precedes_of_sameKey {a b : Schema} (same : a.SameKey b) : ¬ a.Precedes b := by
  rcases same with ⟨name, domain, version⟩
  rintro (less | ⟨_, less | ⟨_, less⟩⟩)
  · exact String.lt_irrefl _ (name ▸ less)
  · exact String.lt_irrefl _ (domain ▸ less)
  · exact Int64.lt_irrefl (version ▸ less)

theorem precedes_asymm {a b : Schema} (before : a.Precedes b) : ¬ b.Precedes a := fun after =>
  not_precedes_of_sameKey ⟨rfl, rfl, rfl⟩ (before.trans after)

end Schema

namespace Catalogue

variable {catalogue : Catalogue} {name domain : String} {version : Int64} {schema : Schema}

/-- An operator and a version have one schema. -/
theorem eq_of_sameKey {other : Schema} (member : schema ∈ catalogue.schemas)
    (otherMember : other ∈ catalogue.schemas) (same : schema.SameKey other) :
    schema = other := by
  have symmetric : other.SameKey schema := ⟨same.1.symm, same.2.1.symm, same.2.2.symm⟩
  have ordered := List.pairwise_iff_getElem.mp catalogue.sorted
  rcases List.getElem_of_mem member with ⟨i, inside, rfl⟩
  rcases List.getElem_of_mem otherMember with ⟨j, otherInside, rfl⟩
  rcases Nat.lt_trichotomy i j with less | rfl | greater
  · exact (Schema.not_precedes_of_sameKey same (ordered i j inside otherInside less)).elim
  · rfl
  · exact (Schema.not_precedes_of_sameKey symmetric
      (ordered j i otherInside inside greater)).elim

theorem mem_versionsOf :
    schema ∈ catalogue.versionsOf name domain ↔
      schema ∈ catalogue.schemas ∧ schema.name = name ∧ schema.domain = domain := by
  rw [versionsOf, List.mem_filter, Schema.isOf_iff]

/-- The versions of an operator increase. -/
theorem versionsOf_increasing (catalogue : Catalogue) (name domain : String) :
    (catalogue.versionsOf name domain).Pairwise fun earlier later =>
      earlier.sinceVersion < later.sinceVersion := by
  refine (catalogue.sorted.filter _).imp_of_mem ?_
  intro earlier later first second before
  have ⟨_, earlierName, earlierDomain⟩ := mem_versionsOf.mp first
  have ⟨_, laterName, laterDomain⟩ := mem_versionsOf.mp second
  rcases before with less | ⟨_, less | ⟨_, less⟩⟩
  · exact (String.lt_irrefl _ (earlierName ▸ laterName ▸ less)).elim
  · exact (String.lt_irrefl _ (earlierDomain ▸ laterDomain ▸ less)).elim
  · exact less

theorem get?_eq_some_iff :
    catalogue.get? name version domain = some schema ↔
      schema ∈ catalogue.versionsOf name domain ∧ schema.sinceVersion = version := by
  constructor
  · intro found
    exact ⟨List.mem_of_find?_eq_some found, by simpa using List.find?_some found⟩
  · rintro ⟨member, rfl⟩
    cases found : catalogue.get? name schema.sinceVersion domain with
    | none => simpa using List.find?_eq_none.mp found schema member
    | some other =>
        have otherMember := mem_versionsOf.mp (List.mem_of_find?_eq_some found)
        have sameVersion : other.sinceVersion = schema.sinceVersion := by
          simpa using List.find?_some found
        have ⟨present, sameName, sameDomain⟩ := mem_versionsOf.mp member
        rw [eq_of_sameKey otherMember.1 present
          ⟨otherMember.2.1.trans sameName.symm, otherMember.2.2.trans sameDomain.symm, sameVersion⟩]

theorem mem_of_resolve? (resolved : catalogue.resolve? name version domain = some schema) :
    schema ∈ catalogue.versionsOf name domain :=
  (List.takeWhile_sublist _).mem (List.mem_of_getLast? resolved)

/-- The schema in effect at a version is found under the version that it came with. -/
theorem get?_of_resolve? (resolved : catalogue.resolve? name version domain = some schema) :
    catalogue.get? name schema.sinceVersion domain = some schema :=
  get?_eq_some_iff.mpr ⟨mem_of_resolve? resolved, rfl⟩

/-! ## Catalogues of sorted lists -/

theorem insertSchema_last {schemas : List Schema}
    (before : ∀ other ∈ schemas, other.Precedes schema) :
    insertSchema schema schemas = schemas ++ [schema] := by
  induction schemas with
  | nil => rfl
  | cons first rest ih =>
      rcases List.forall_mem_cons.mp before with ⟨firstBefore, restBefore⟩
      have different : ¬ schema.SameKey first := fun ⟨sameName, sameDomain, sameVersion⟩ =>
        Schema.not_precedes_of_sameKey ⟨sameName.symm, sameDomain.symm, sameVersion.symm⟩
          firstBefore
      rw [insertSchema, if_neg (Schema.precedes_asymm firstBefore), if_neg different,
        ih restBefore]
      rfl

instance : Trans Schema.Precedes Schema.Precedes Schema.Precedes :=
  ⟨Schema.Precedes.trans⟩

end Catalogue

end OnnxForge

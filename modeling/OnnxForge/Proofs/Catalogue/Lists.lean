import Mathlib.Data.List.Destutter
import OnnxForge.Proofs.Catalogue

/-!
# Catalogues of lists

A catalogue is made of schemas in any order and with any repetitions. What it tells is what
the list tells: of each operator and version the first schema, and of the versions that are
not above another the greatest. The order of a list counts only among schemas of one operator
and version. A stable sort that is followed by dropping repetitions makes the same catalogue.
-/

namespace OnnxForge

namespace Schema

variable {a b c : Schema}

theorem SameKey.symm (same : a.SameKey b) : b.SameKey a :=
  ⟨same.1.symm, same.2.1.symm, same.2.2.symm⟩

theorem Precedes.of_sameKey (before : a.Precedes b) (same : b.SameKey c) : a.Precedes c := by
  rcases same with ⟨name, domain, version⟩
  rwa [Precedes, ← name, ← domain, ← version]

/-- Whether a schema is the one of an operator and a version. -/
def isAt (schema : Schema) (name : String) (version : Int64) (domain : String) : Bool :=
  schema.isOf name domain && schema.sinceVersion == version

theorem isAt_iff {name domain : String} {version : Int64} :
    a.isAt name version domain = true ↔
      a.name = name ∧ a.domain = domain ∧ a.sinceVersion = version := by
  rw [isAt, Bool.and_eq_true, isOf_iff, beq_iff_eq, and_assoc]

theorem sameKey_of_isAt {name domain : String} {version : Int64}
    (first : a.isAt name version domain = true) (second : b.isAt name version domain = true) :
    a.SameKey b := by
  rcases isAt_iff.mp first with ⟨rfl, rfl, rfl⟩
  exact SameKey.symm (isAt_iff.mp second)

theorem isAt_of_sameKey {name domain : String} {version : Int64} (same : a.SameKey b)
    (isAt : a.isAt name version domain = true) : b.isAt name version domain = true := by
  rcases isAt_iff.mp isAt with ⟨rfl, rfl, rfl⟩
  exact isAt_iff.mpr same.symm

/-- Whether a schema may stand before another in a sorted list. -/
def notAfter (a b : Schema) : Bool :=
  decide ¬ b.Precedes a

theorem notAfter_iff : a.notAfter b = true ↔ ¬ b.Precedes a :=
  decide_eq_true_iff

theorem notAfter_trans (a b c : Schema) (first : a.notAfter b = true)
    (second : b.notAfter c = true) : a.notAfter c = true := by
  rw [notAfter_iff] at first second ⊢
  intro after
  by_cases same : b.SameKey a
  · exact second (after.of_sameKey same.symm)
  · exact second (after.trans (Schema.precedes_of_not first same))

theorem notAfter_total (a b : Schema) : (a.notAfter b || b.notAfter a) = true := by
  rw [Bool.or_eq_true, notAfter_iff, notAfter_iff, ← not_and_or]
  exact fun both => precedes_asymm both.1 both.2

end Schema

namespace Catalogue

variable {catalogue : Catalogue} {name domain : String} {version : Int64} {schema other : Schema}
  {schemas : List Schema}

@[simp]
theorem schemas_insert : (catalogue.insert schema).schemas = insertSchema schema catalogue.schemas :=
  rfl

theorem get?_eq_some_iff_mem :
    catalogue.get? name version domain = some schema ↔
      schema ∈ catalogue.schemas ∧ schema.isAt name version domain = true := by
  rw [get?_eq_some_iff, mem_versionsOf, Schema.isAt_iff, and_assoc, and_assoc]

theorem get?_eq_none_iff :
    catalogue.get? name version domain = none ↔
      ∀ schema ∈ catalogue.schemas, schema.isAt name version domain = false := by
  rw [Option.eq_none_iff_forall_ne_some]
  simp only [ne_eq, get?_eq_some_iff_mem, not_and, Bool.not_eq_true]

/-- Catalogues in which every look-up gives the same are the same. -/
theorem ext_get? {first second : Catalogue}
    (alike : ∀ name version domain,
      first.get? name version domain = second.get? name version domain) : first = second := by
  have mem : ∀ schema, schema ∈ first.schemas ↔ schema ∈ second.schemas := by
    intro schema
    have own : schema.isAt schema.name schema.sinceVersion schema.domain = true :=
      Schema.isAt_iff.mpr ⟨rfl, rfl, rfl⟩
    have same := alike schema.name schema.sinceVersion schema.domain
    exact ⟨fun member => (get?_eq_some_iff_mem.mp
        (same ▸ get?_eq_some_iff_mem.mpr ⟨member, own⟩)).1,
      fun member => (get?_eq_some_iff_mem.mp
        (same.symm ▸ get?_eq_some_iff_mem.mpr ⟨member, own⟩)).1⟩
  have nodup : ∀ catalogue : Catalogue, catalogue.schemas.Nodup := fun catalogue =>
    List.Pairwise.imp (fun before => by
      rintro rfl
      exact Schema.not_precedes_of_sameKey ⟨rfl, rfl, rfl⟩ before) catalogue.sorted
  have perm := (List.perm_ext_iff_of_nodup (nodup first) (nodup second)).mpr mem
  have schemas : first.schemas = second.schemas :=
    perm.eq_of_pairwise (fun a b _ _ before after => (Schema.precedes_asymm before after).elim)
      first.sorted second.sorted
  obtain ⟨_, _⟩ := first
  obtain ⟨_, _⟩ := second
  cases schemas
  rfl

/-! ## Exact versions -/

/-- A schema is added unless one of its operator and version is there. -/
theorem mem_insertSchema_iff (sorted : schemas.Pairwise Schema.Precedes) :
    other ∈ insertSchema schema schemas ↔
      other ∈ schemas ∨ other = schema ∧ ∀ present ∈ schemas, ¬ schema.SameKey present := by
  induction schemas with
  | nil => simp [insertSchema]
  | cons first rest ih =>
      rcases List.pairwise_cons.mp sorted with ⟨least, sortedRest⟩
      rw [insertSchema]
      split
      next before =>
        have absent : ∀ present ∈ first :: rest, ¬ schema.SameKey present := by
          intro present member same
          have after : schema.Precedes present := by
            rcases List.mem_cons.mp member with rfl | later
            · exact before
            · exact before.trans (least present later)
          exact Schema.not_precedes_of_sameKey same after
        rw [List.mem_cons, or_comm, and_iff_left absent]
      next notBefore =>
        split
        next same =>
          have present : ¬ ∀ present ∈ first :: rest, ¬ schema.SameKey present := fun absent =>
            absent first List.mem_cons_self same
          rw [or_iff_left fun added => present added.2]
        next different =>
          rw [List.mem_cons, ih sortedRest, List.mem_cons, or_assoc, List.forall_mem_cons,
            and_iff_right different]

/-- What is there already is found before a schema that is added. -/
theorem get?_insert (catalogue : Catalogue) (schema : Schema) (name : String) (version : Int64)
    (domain : String) :
    (catalogue.insert schema).get? name version domain =
      (catalogue.get? name version domain).or
        ([schema].find? fun schema => schema.isAt name version domain) := by
  have mem : ∀ other, other ∈ (catalogue.insert schema).schemas ↔ other ∈ catalogue.schemas ∨
      other = schema ∧ ∀ present ∈ catalogue.schemas, ¬ schema.SameKey present := fun other =>
    mem_insertSchema_iff catalogue.sorted
  cases found : catalogue.get? name version domain with
  | some present =>
      have ⟨member, isAt⟩ := get?_eq_some_iff_mem.mp found
      exact get?_eq_some_iff_mem.mpr ⟨(mem present).mpr (.inl member), isAt⟩
  | none =>
      have missing := get?_eq_none_iff.mp found
      rw [Option.none_or, List.find?_singleton]
      split
      next isAt =>
        refine get?_eq_some_iff_mem.mpr ⟨(mem schema).mpr (.inr ⟨rfl, ?_⟩), isAt⟩
        intro present member same
        have presentAt : present.isAt name version domain = true :=
          Schema.isAt_of_sameKey same isAt
        exact Bool.false_ne_true ((missing present member).symm.trans presentAt)
      next notAt =>
        refine get?_eq_none_iff.mpr fun other member => ?_
        rcases (mem other).mp member with present | ⟨rfl, _⟩
        · exact missing other present
        · exact Bool.eq_false_iff.mpr notAt

/-- The schema that came with a version is the first of the list. -/
theorem get?_ofList (schemas : List Schema) (name : String) (version : Int64) (domain : String) :
    (ofList schemas).get? name version domain =
      schemas.find? fun schema => schema.isAt name version domain := by
  have added : ∀ catalogue : Catalogue,
      (schemas.foldl insert catalogue).get? name version domain =
        (catalogue.get? name version domain).or
          (schemas.find? fun schema => schema.isAt name version domain) := by
    induction schemas with
    | nil => exact fun catalogue => Option.or_none.symm
    | cons first rest ih =>
        intro catalogue
        rw [List.foldl_cons, ih, get?_insert, Option.or_assoc, ← List.find?_append,
          List.singleton_append]
  exact added empty

/-- The catalogue has a schema of every version that the list has one of. -/
theorem exists_mem_versionsOf_iff :
    (∃ schema ∈ (ofList schemas).versionsOf name domain, schema.sinceVersion = version) ↔
      ∃ schema ∈ schemas, schema.isAt name version domain = true := by
  rw [← List.find?_isSome, ← get?_ofList, Option.isSome_iff_exists]
  exact exists_congr fun _ => get?_eq_some_iff.symm

/-! ## Versions in effect -/

/-- Of increasing versions the first are those that are not above another. -/
theorem mem_takeWhile_iff
    (increasing : schemas.Pairwise fun earlier later =>
      earlier.sinceVersion < later.sinceVersion) :
    schema ∈ schemas.takeWhile (fun schema => decide (schema.sinceVersion ≤ version)) ↔
      schema ∈ schemas ∧ schema.sinceVersion ≤ version := by
  induction schemas with
  | nil => simp
  | cons first rest ih =>
      have ⟨least, increasingRest⟩ := List.pairwise_cons.mp increasing
      by_cases reached : first.sinceVersion ≤ version
      · rw [List.takeWhile_cons, if_pos (decide_eq_true reached), List.mem_cons, List.mem_cons,
          ih increasingRest, or_and_right]
        refine or_congr_left ⟨fun same => ⟨same, ?_⟩, And.left⟩
        exact same ▸ reached
      · rw [List.takeWhile_cons, if_neg (by rwa [decide_eq_true_eq])]
        refine ⟨fun member => absurd member List.not_mem_nil, ?_⟩
        rintro ⟨member, below⟩
        rcases List.mem_cons.mp member with rfl | later
        · exact absurd below reached
        · exact absurd (Int64.le_trans (Int64.le_of_lt (least schema later)) below) reached

/-- The schema in effect is the one of the greatest version that is not above. -/
theorem resolve?_eq_some_iff :
    catalogue.resolve? name version domain = some schema ↔
      schema ∈ catalogue.versionsOf name domain ∧ schema.sinceVersion ≤ version ∧
        ∀ other ∈ catalogue.versionsOf name domain, other.sinceVersion ≤ version →
          other.sinceVersion ≤ schema.sinceVersion := by
  have increasing := versionsOf_increasing catalogue name domain
  have greatest : ∀ {last}, catalogue.resolve? name version domain = some last →
      last ∈ catalogue.versionsOf name domain ∧ last.sinceVersion ≤ version ∧
        ∀ other ∈ catalogue.versionsOf name domain, other.sinceVersion ≤ version →
          other.sinceVersion ≤ last.sinceVersion := by
    intro last resolved
    have ⟨member, reached⟩ := (mem_takeWhile_iff increasing).mp (List.mem_of_getLast? resolved)
    refine ⟨member, reached, fun other present below => ?_⟩
    rcases List.getLast?_eq_some_iff.mp resolved with ⟨earlier, split⟩
    have taken := (mem_takeWhile_iff increasing).mpr ⟨present, below⟩
    have ordered := increasing.sublist (List.takeWhile_sublist fun schema =>
      decide (schema.sinceVersion ≤ version))
    rw [split] at taken ordered
    rcases List.mem_append.mp taken with before | same
    · exact Int64.le_of_lt ((List.pairwise_append.mp ordered).2.2 other before last
        List.mem_cons_self)
    · rw [List.mem_singleton.mp same]
      exact Int64.le_refl _
  refine ⟨greatest, ?_⟩
  rintro ⟨member, reached, least⟩
  cases resolved : catalogue.resolve? name version domain with
  | none =>
      have taken := (mem_takeWhile_iff increasing).mpr ⟨member, reached⟩
      rw [List.getLast?_eq_none_iff.mp resolved] at taken
      cases taken
  | some last =>
      have ⟨lastMember, lastReached, lastGreatest⟩ := greatest resolved
      have same : last.sinceVersion = schema.sinceVersion :=
        Int64.le_antisymm (least last lastMember lastReached) (lastGreatest schema member reached)
      have ⟨lastPresent, lastName, lastDomain⟩ := mem_versionsOf.mp lastMember
      have ⟨present, ownName, ownDomain⟩ := mem_versionsOf.mp member
      rw [eq_of_sameKey lastPresent present
        ⟨lastName.trans ownName.symm, lastDomain.trans ownDomain.symm, same⟩]

/-- No schema is in effect before the first version. -/
theorem resolve?_eq_none_iff :
    catalogue.resolve? name version domain = none ↔
      ∀ schema ∈ catalogue.versionsOf name domain, ¬ schema.sinceVersion ≤ version := by
  rw [resolve?, List.getLast?_eq_none_iff, List.eq_nil_iff_forall_not_mem]
  simp only [mem_takeWhile_iff (versionsOf_increasing catalogue name domain), not_and]

/-! ## The order of a list -/

/-- In a list without repetitions a schema is found exactly if it is there. -/
theorem find?_eq_some_iff_of_distinct
    (distinct : schemas.Pairwise fun a b => ¬ a.SameKey b) :
    schemas.find? (fun schema => schema.isAt name version domain) = some schema ↔
      schema ∈ schemas ∧ schema.isAt name version domain = true := by
  have : Std.Symm fun a b : Schema => ¬ a.SameKey b := ⟨fun _ _ different same =>
    different same.symm⟩
  have found : ∀ {present}, schemas.find? (fun schema => schema.isAt name version domain) =
      some present → present ∈ schemas ∧ present.isAt name version domain = true := by
    intro present first
    have isAt := List.find?_some first
    exact ⟨List.mem_of_find?_eq_some first, isAt⟩
  refine ⟨found, ?_⟩
  rintro ⟨member, isAt⟩
  cases first : schemas.find? fun schema => schema.isAt name version domain with
  | none => exact absurd isAt (List.find?_eq_none.mp first schema member)
  | some present =>
      have ⟨presentMember, presentAt⟩ := found first
      by_contra different
      have distinct := distinct.forall presentMember member fun same =>
        different (congrArg some same)
      exact distinct (Schema.sameKey_of_isAt presentAt isAt)

/-- The order of a list without repetitions does not count. -/
theorem ofList_eq_of_perm {others : List Schema} (perm : schemas.Perm others)
    (distinct : schemas.Pairwise fun a b => ¬ a.SameKey b) : ofList others = ofList schemas := by
  have othersDistinct := distinct.perm perm fun different same => different same.symm
  refine ext_get? fun name version domain => Option.ext fun schema => ?_
  rw [get?_ofList, get?_ofList, find?_eq_some_iff_of_distinct othersDistinct,
    find?_eq_some_iff_of_distinct distinct, perm.mem_iff]

/-- A list sorted stably has the same first schema of every operator and version. -/
theorem find?_mergeSort (schemas : List Schema) (name : String) (version : Int64)
    (domain : String) :
    (schemas.mergeSort Schema.notAfter).find? (fun schema => schema.isAt name version domain) =
      schemas.find? fun schema => schema.isAt name version domain := by
  let isAt := fun schema : Schema => schema.isAt name version domain
  have alike : (schemas.filter isAt).Pairwise fun a b => a.notAfter b = true := by
    refine List.pairwise_of_forall_mem_list fun a first b second => ?_
    have same := Schema.sameKey_of_isAt (List.mem_filter.mp second).2 (List.mem_filter.mp first).2
    exact Schema.notAfter_iff.mpr (Schema.not_precedes_of_sameKey same)
  have kept : (schemas.filter isAt).Sublist ((schemas.mergeSort Schema.notAfter).filter isAt) := by
    have sublist := (List.sublist_mergeSort Schema.notAfter_trans Schema.notAfter_total alike
      List.filter_sublist).filter isAt
    simpa only [List.filter_filter, Bool.and_self] using sublist
  have length := ((List.mergeSort_perm schemas Schema.notAfter).filter isAt).length_eq
  rw [← List.head?_filter, ← List.head?_filter, kept.eq_of_length length.symm]

/-- A schema of an operator and a version that is there already is not added. -/
theorem insertSchema_of_mem (sorted : schemas.Pairwise Schema.Precedes) (member : other ∈ schemas)
    (same : schema.SameKey other) : insertSchema schema schemas = schemas := by
  induction schemas with
  | nil => cases member
  | cons first rest ih =>
      have ⟨least, sortedRest⟩ := List.pairwise_cons.mp sorted
      rcases List.mem_cons.mp member with rfl | later
      · rw [insertSchema, if_neg (Schema.not_precedes_of_sameKey same), if_pos same]
      · have after : first.Precedes schema := (least other later).of_sameKey same.symm
        have different : ¬ schema.SameKey first := fun alike =>
          Schema.not_precedes_of_sameKey alike.symm after
        rw [insertSchema, if_neg (Schema.precedes_asymm after), if_neg different,
          ih sortedRest later]

/-- Of a sorted list, repetitions of the schema before are left out. -/
theorem schemas_foldl_insert {earlier : List Schema} {last : Schema} {later : List Schema}
    (ordered : (last :: later).Pairwise fun a b => a.notAfter b = true) :
    ∀ catalogue : Catalogue, catalogue.schemas = earlier ++ [last] →
      (later.foldl insert catalogue).schemas =
        earlier ++ later.destutter' (fun a b => ¬ a.SameKey b) last := by
  induction later generalizing earlier last with
  | nil => exact fun catalogue ends => ends
  | cons next rest ih =>
      intro catalogue ends
      have ⟨⟨notAfter, notAfterRest⟩, orderedRest⟩ :=
        And.imp_left List.forall_mem_cons.mp (List.pairwise_cons.mp ordered)
      have sorted := catalogue.sorted
      rw [ends] at sorted
      rw [List.foldl_cons]
      by_cases same : last.SameKey next
      · have kept : (catalogue.insert next).schemas = earlier ++ [last] := by
          rw [schemas_insert, ends]
          exact insertSchema_of_mem sorted (List.mem_append_right _ List.mem_cons_self) same.symm
        rw [List.destutter'_cons_neg _ (not_not.mpr same)]
        refine ih (List.pairwise_cons.mpr ⟨notAfterRest, ?_⟩) _ kept
        exact (List.pairwise_cons.mp orderedRest).2
      · have before : last.Precedes next :=
          Schema.precedes_of_not (Schema.notAfter_iff.mp notAfter) fun alike => same alike.symm
        have added : (catalogue.insert next).schemas = (earlier ++ [last]) ++ [next] := by
          rw [schemas_insert, ends]
          refine insertSchema_last fun other member => ?_
          rcases List.mem_append.mp member with first | second
          · exact ((List.pairwise_append.mp sorted).2.2 other first last
              List.mem_cons_self).trans before
          · exact List.mem_singleton.mp second ▸ before
        rw [List.destutter'_cons_pos _ same, ih orderedRest _ added, List.append_assoc,
          List.singleton_append]

/-- A catalogue is the list sorted stably, without the repetitions that then stand together. -/
theorem schemas_ofList_eq_destutter (schemas : List Schema) :
    (ofList schemas).schemas =
      (schemas.mergeSort Schema.notAfter).destutter fun a b => ¬ a.SameKey b := by
  have same : ofList (schemas.mergeSort Schema.notAfter) = ofList schemas := by
    refine ext_get? fun name version domain => ?_
    rw [get?_ofList, get?_ofList, find?_mergeSort]
  have ordered := List.pairwise_mergeSort Schema.notAfter_trans Schema.notAfter_total schemas
  rw [← same]
  cases sorted : schemas.mergeSort Schema.notAfter with
  | nil => rfl
  | cons first rest =>
      rw [sorted] at ordered
      have single : (empty.insert first).schemas = [] ++ [first] := rfl
      exact schemas_foldl_insert ordered _ single

/-! ## Look-ups -/

/-- A schema is in effect at a version by a list: it is the first of its version, this is not
above, and no version between is listed. -/
structure InEffect (schemas : List Schema) (name : String) (version : Int64) (domain : String)
    (schema : Schema) : Prop where
  first : (schemas.find? fun other => other.isAt name schema.sinceVersion domain) = some schema
  reached : schema.sinceVersion ≤ version
  greatest : ∀ other ∈ schemas, other.isOf name domain = true →
    other.sinceVersion ≤ version → other.sinceVersion ≤ schema.sinceVersion

/-- What holds of the versions in the list holds of those in the catalogue. -/
theorem forall_versionsOf_ofList (holds : Int64 → Prop) :
    (∀ schema ∈ (ofList schemas).versionsOf name domain, holds schema.sinceVersion) ↔
      ∀ schema ∈ schemas, schema.isOf name domain = true → holds schema.sinceVersion := by
  constructor
  · intro all schema member isOf
    have isAt : schema.isAt name schema.sinceVersion domain = true := by
      rw [Schema.isAt, isOf, Bool.true_and, beq_self_eq_true]
    have ⟨present, presentMember, same⟩ := exists_mem_versionsOf_iff.mpr ⟨schema, member, isAt⟩
    exact same ▸ all present presentMember
  · intro all schema member
    have ⟨present, ownName, ownDomain⟩ := mem_versionsOf.mp member
    exact all schema (mem_of_mem_ofList present) (Schema.isOf_iff.mpr ⟨ownName, ownDomain⟩)

theorem resolve?_ofList_eq_some_iff :
    (ofList schemas).resolve? name version domain = some schema ↔
      InEffect schemas name version domain schema := by
  have present : schema ∈ (ofList schemas).versionsOf name domain ↔
      (schemas.find? fun other => other.isAt name schema.sinceVersion domain) = some schema := by
    rw [← get?_ofList, get?_eq_some_iff, and_iff_left rfl]
  have greatest := @forall_versionsOf_ofList name domain schemas fun later =>
    later ≤ version → later ≤ schema.sinceVersion
  rw [resolve?_eq_some_iff, present, greatest]
  exact ⟨fun ⟨first, reached, greatest⟩ => ⟨first, reached, greatest⟩,
    fun ⟨first, reached, greatest⟩ => ⟨first, reached, greatest⟩⟩

theorem resolve?_ofList_eq_none_iff :
    (ofList schemas).resolve? name version domain = none ↔
      ∀ schema ∈ schemas, schema.isOf name domain = true → version < schema.sinceVersion := by
  rw [resolve?_eq_none_iff]
  simp only [Int64.not_le]
  exact forall_versionsOf_ofList fun later => version < later

theorem mem_sinceVersions_ofList_iff :
    version ∈ (ofList schemas).sinceVersions name domain ↔
      ∃ schema ∈ schemas, schema.isAt name version domain = true := by
  rw [sinceVersions, List.mem_map, exists_mem_versionsOf_iff]

/-- A catalogue of a list, in any order and with any repetitions, is the list sorted stably and
without its repetitions. It tells of each operator what the list tells: the first schema of every
version, the one in effect at another version, and the versions in increasing order. The order of
the list does not count without repetitions. -/
theorem look_ups_of_list (schemas : List Schema) :
    ((ofList schemas).schemas =
      (schemas.mergeSort Schema.notAfter).destutter fun a b => ¬ a.SameKey b) ∧
    (∀ name version domain,
      ((ofList schemas).get? name version domain =
        schemas.find? fun schema => schema.isAt name version domain) ∧
      (∀ schema, (ofList schemas).resolve? name version domain = some schema ↔
        InEffect schemas name version domain schema) ∧
      ((ofList schemas).resolve? name version domain = none ↔
        ∀ schema ∈ schemas, schema.isOf name domain = true → version < schema.sinceVersion)) ∧
    (∀ name domain,
      ((ofList schemas).sinceVersions name domain).Pairwise (· < ·) ∧
      ∀ version, version ∈ (ofList schemas).sinceVersions name domain ↔
        ∃ schema ∈ schemas, schema.isAt name version domain = true) ∧
    ∀ others, schemas.Perm others → (schemas.Pairwise fun a b => ¬ a.SameKey b) →
      ofList others = ofList schemas := by
  refine ⟨schemas_ofList_eq_destutter schemas,
    fun name version domain => ⟨get?_ofList schemas name version domain, ?_, ?_⟩,
    fun name domain => ⟨?_, ?_⟩, ?_⟩
  · exact fun schema => resolve?_ofList_eq_some_iff
  · exact resolve?_ofList_eq_none_iff
  · exact (versionsOf_increasing (ofList schemas) name domain).map _ fun _ _ less => less
  · exact fun version => mem_sinceVersions_ofList_iff
  · exact fun others perm distinct => ofList_eq_of_perm perm distinct

/-- The versions of an operator make the same catalogue from the last one on. -/
theorem look_ups_of_reversed :
    (Builtin.reluVersions.Pairwise fun a b => ¬ a.SameKey b) ∧
      ofList Builtin.reluVersions.reverse = ofList Builtin.reluVersions ∧
      (ofList Builtin.reluVersions.reverse).resolve? "Relu" 0 "" = none := by
  have distinct : Builtin.reluVersions.Pairwise fun a b => ¬ a.SameKey b := by decide
  have reversed := (List.reverse_perm Builtin.reluVersions).symm
  refine ⟨distinct, (look_ups_of_list Builtin.reluVersions).2.2.2 _ reversed distinct, ?_⟩
  exact ((look_ups_of_list Builtin.reluVersions.reverse).2.1 "Relu" 0 "").2.2.mpr (by decide)

end Catalogue

end OnnxForge

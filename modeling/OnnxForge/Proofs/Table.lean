import Mathlib.Data.List.Induction
import Mathlib.Data.List.Nodup
import OnnxForge.Table

/-!
# Tables of lists

In the table of a list the last entry of a name counts. The entries of a table stand in
order, so that their table is the table itself.
-/

namespace OnnxForge.Table

variable {α β : Type}

/-! ## Entries -/

/-- A new name adds its entry to the entries. -/
theorem perm_insertEntry {name : String} (value : α) {entries : List (String × α)}
    (absent : entries.lookup name = none) :
    (insertEntry name value entries).Perm ((name, value) :: entries) := by
  induction entries with
  | nil => exact List.Perm.refl _
  | cons first rest ih =>
      rw [lookup_cons] at absent
      rw [insertEntry]
      split
      · exact List.Perm.refl _
      · split at absent
        · cases absent
        next different =>
          rw [if_neg different]
          exact ((ih absent).cons first).trans (List.Perm.swap _ _ _)

/-- A name that comes after all others gets the last entry. -/
theorem insertEntry_last {name : String} (value : α) {entries : List (String × α)}
    (greatest : ∀ entry ∈ entries, entry.1 < name) :
    insertEntry name value entries = entries ++ [(name, value)] := by
  induction entries with
  | nil => rfl
  | cons first rest ih =>
      have ⟨less, others⟩ := List.forall_mem_cons.mp greatest
      rw [insertEntry, if_neg (String.lt_asymm less), if_neg (String.ne_of_lt less).symm, ih others]
      rfl

theorem mem_entries_of_get? {table : Table α} {name : String} {value : α}
    (found : table.get? name = some value) :
    (name, value) ∈ table.entries := by
  rcases List.lookup_eq_some_iff.mp found with ⟨before, after, split, _⟩
  rw [split]
  exact List.mem_append_right before List.mem_cons_self

theorem ext_entries {first second : Table α} (same : first.entries = second.entries) :
    first = second := by
  cases first
  cases second
  cases same
  rfl

/-! ## Lists of entries -/

theorem ofList_append (entries : List (String × α)) (last : String × α) :
    ofList (entries ++ [last]) = (ofList entries).insert last.1 last.2 := by
  rw [ofList, List.foldl_append]
  rfl

/-- A name has the value that the list gives it last. -/
theorem get?_ofList (entries : List (String × α)) (name : String) :
    (ofList entries).get? name = entries.reverse.lookup name := by
  induction entries using List.reverseRecOn with
  | nil => rfl
  | append_singleton earlier last ih =>
      rw [ofList_append, get?_insert, List.reverse_append, ih]
      exact (lookup_cons _ _ _).symm

theorem contains_ofList (entries : List (String × α)) (name : String) :
    (ofList entries).contains name = entries.any fun entry => entry.1 == name := by
  induction entries using List.reverseRecOn with
  | nil => rfl
  | append_singleton earlier last ih =>
      rw [ofList_append, contains, get?_insert, List.any_append, ← ih, contains]
      by_cases same : name = last.1
      · simp [same]
      · simp [same, Ne.symm same]

/-- The entries of the table of a list are among those of the list. -/
theorem mem_of_mem_entries_ofList {entries : List (String × α)} {entry : String × α}
    (member : entry ∈ (ofList entries).entries) : entry ∈ entries := by
  induction entries using List.reverseRecOn with
  | nil => cases member
  | append_singleton earlier last ih =>
      rw [ofList_append] at member
      rcases mem_insertEntry member with rfl | kept
      · exact List.mem_append_right earlier List.mem_cons_self
      · exact List.mem_append_left _ (ih kept)

/-- A name in the table of a list has a value that the list gives it. -/
theorem mem_of_get?_ofList {entries : List (String × α)} {name : String} {value : α}
    (found : (ofList entries).get? name = some value) :
    (name, value) ∈ entries :=
  mem_of_mem_entries_ofList (mem_entries_of_get? found)

/-- A table is the table of its entries. -/
theorem ofList_entries (table : Table α) : ofList table.entries = table := by
  refine ext_entries ?_
  obtain ⟨entries, sorted⟩ := table
  change (ofList entries).entries = entries
  induction entries using List.reverseRecOn with
  | nil => rfl
  | append_singleton earlier last ih =>
      have ⟨sortedEarlier, _, below⟩ := List.pairwise_append.mp sorted
      have greatest : ∀ entry ∈ earlier, entry.1 < last.1 :=
        fun entry member => below entry member last List.mem_cons_self
      rw [ofList_append]
      change insertEntry last.1 last.2 (ofList earlier).entries = _
      rw [ih sortedEarlier, insertEntry_last last.2 greatest]

/-! ## Values -/

/-- The table with other values for its names. -/
def map (change : α → β) (table : Table α) : Table β :=
  ⟨table.entries.map fun entry => (entry.1, change entry.2), by
    rw [List.pairwise_map]
    exact table.sorted⟩

end OnnxForge.Table

import Mathlib.Data.List.Nodup
import Mathlib.Data.List.Perm.Subperm
import OnnxForge.Network.Naming
import OnnxForge.Proofs.Table
import OnnxForge.Proofs.Text.Numeral

/-!
# Distinct identifiers

A name that has an identifier keeps it, and no two names of tensors or nodes have the same
one. The search for a free candidate always finds one, since the candidates differ and are
more than the names that are taken.
-/

namespace OnnxForge.Source

variable {taken : List String} {candidate : Nat → String}

/-- The search gives a name that is taken only when all candidates within reach are. -/
theorem candidates_taken {steps index : Nat}
    (occupied : firstFreeFrom taken candidate steps index ∈ taken) :
    ∀ offset ≤ steps, candidate (index + offset) ∈ taken := by
  induction steps generalizing index with
  | zero =>
      intro offset within
      obtain rfl : offset = 0 := Nat.le_zero.mp within
      exact occupied
  | succ steps ih =>
      rw [firstFreeFrom] at occupied
      split at occupied
      next present =>
        intro offset within
        cases offset with
        | zero => exact List.contains_iff_mem.mp present
        | succ offset =>
            have later := ih occupied offset (Nat.le_of_succ_le_succ within)
            rwa [Nat.add_right_comm] at later
      next absent => exact (absent (List.contains_iff_mem.mpr occupied)).elim

/-- Among candidates that differ one is free. -/
theorem firstFree_notMem (injective : Function.Injective candidate) :
    firstFree taken candidate ∉ taken := by
  intro occupied
  have allTaken := candidates_taken occupied
  let candidates := (List.range (taken.length + 1)).map candidate
  have different : candidates.Nodup := List.Nodup.map injective List.nodup_range
  have subset : candidates ⊆ taken := by
    intro name member
    rcases List.mem_map.mp member with ⟨offset, inRange, rfl⟩
    have within : offset ≤ taken.length := Nat.le_of_lt_succ (List.mem_range.mp inRange)
    simpa using allTaken offset within
  have tooMany := (different.subperm subset).length_le
  rw [List.length_map, List.length_range] at tooMany
  exact Nat.not_succ_le_self _ tooMany

theorem exists_firstFreeFrom (taken : List String) (candidate : Nat → String) (steps : Nat) :
    ∀ index, ∃ offset ≤ steps,
      firstFreeFrom taken candidate steps index = candidate (index + offset) ∧
        ∀ earlier < offset, candidate (index + earlier) ∈ taken := by
  induction steps with
  | zero =>
      intro index
      exact ⟨0, Nat.le_refl 0, rfl, fun earlier before => (Nat.not_lt_zero earlier before).elim⟩
  | succ steps ih =>
      intro index
      rw [firstFreeFrom]
      split
      next present =>
        rcases ih (index + 1) with ⟨offset, within, found, passed⟩
        refine ⟨offset + 1, Nat.succ_le_succ within, ?_, fun earlier before => ?_⟩
        · rw [found, Nat.add_right_comm, Nat.add_assoc]
        · cases earlier with
          | zero => exact List.contains_iff_mem.mp present
          | succ earlier =>
              rw [← Nat.add_assoc, Nat.add_right_comm]
              exact passed earlier (Nat.lt_of_succ_lt_succ before)
      next => exact ⟨0, Nat.zero_le _, rfl, fun earlier before => (Nat.not_lt_zero _ before).elim⟩

/-- The search gives the first candidate that is free, after no more steps than there are
names taken. -/
theorem exists_firstFree (injective : Function.Injective candidate) :
    ∃ index ≤ taken.length, firstFree taken candidate = candidate index ∧
      candidate index ∉ taken ∧ ∀ earlier < index, candidate earlier ∈ taken := by
  rcases exists_firstFreeFrom taken candidate taken.length 0 with ⟨index, within, found, passed⟩
  simp only [Nat.zero_add] at found passed
  exact ⟨index, within, found, found ▸ firstFree_notMem injective, passed⟩

/-- Candidates differ when all but the first go on from it, and in different ways. -/
theorem injective_continued {stem : String} {more : Nat → String}
    (written : ∀ index, more index ≠ "") (different : Function.Injective more) :
    Function.Injective fun index => if index = 0 then stem else stem ++ more index := by
  have longer : ∀ index, stem ++ more index ≠ stem := fun index same =>
    written index ((String.append_right_inj stem).mp (same.trans String.append_empty.symm))
  intro first second same
  dsimp only at same
  split at same
  next firstZero =>
    split at same
    next secondZero => exact firstZero.trans secondZero.symm
    next => exact (longer second same.symm).elim
  next =>
    split at same
    next => exact (longer first same).elim
    next => exact different ((String.append_right_inj stem).mp same)

end OnnxForge.Source

namespace OnnxForge

namespace Network

theorem Identifier.numbered_injective (stem : String) :
    Function.Injective (Identifier.numbered stem) := by
  have candidates : Identifier.numbered stem =
      fun index => if index = 0 then stem else stem ++ ("_" ++ Text.natural index) := by
    funext index
    rw [Identifier.numbered, String.append_assoc]
  have different : Function.Injective fun index => "_" ++ Text.natural index :=
    fun _ _ same => Text.natural_injective ((String.append_right_inj "_").mp same)
  rw [candidates]
  exact Source.injective_continued (by simp) different

namespace Naming

/-! ## What stays -/

/-- Whether all identifiers in use differ. -/
def Distinct (naming : Naming) : Prop :=
  naming.taken.Nodup

/-- Names keep their identifiers, and new ones are different. -/
structure Grows (before after : Naming) : Prop where
  tensors : ∀ {name identifier},
    before.tensors.get? name = some identifier → after.tensors.get? name = some identifier
  nodes : ∀ {key identifier},
    before.nodes.get? key = some identifier → after.nodes.get? key = some identifier
  distinct : before.Distinct → after.Distinct

namespace Grows

theorem refl (naming : Naming) : Grows naming naming :=
  ⟨id, id, id⟩

theorem trans {first second third : Naming}
    (early : Grows first second) (late : Grows second third) :
    Grows first third where
  tensors := late.tensors ∘ early.tensors
  nodes := late.nodes ∘ early.nodes
  distinct := late.distinct ∘ early.distinct

end Grows

theorem distinct_empty : empty.Distinct :=
  List.nodup_nil

theorem fresh_notMem (naming : Naming) (name : String) : naming.fresh name ∉ naming.taken :=
  Source.firstFree_notMem (Identifier.numbered_injective _)

/-- A table in which a new name is given a value keeps what it has of other names. -/
theorem get?_insert_of_some {table : Table String} {name value key found : String}
    (absent : table.get? name = none) (present : table.get? key = some found) :
    (table.insert name value).get? key = some found := by
  rw [Table.get?_insert, if_neg, present]
  rintro rfl
  rw [absent] at present
  cases present

/-- How the identifiers in use change when one is asked for: they stay, or one that was free
comes in. -/
inductive Claims (before after : Naming) : Prop
  | none (same : after.taken = before.taken)
  | fresh (name : String) (more : after.taken.Perm (before.fresh name :: before.taken))

namespace Claims

variable {before after : Naming}

theorem distinct (claims : Claims before after) (distinct : before.Distinct) :
    after.Distinct := by
  cases claims with
  | none same => rwa [Distinct, same]
  | fresh name more =>
      exact more.nodup_iff.mpr (List.nodup_cons.mpr ⟨before.fresh_notMem name, distinct⟩)

theorem length_le (claims : Claims before after) :
    after.taken.length ≤ before.taken.length + 1 := by
  cases claims with
  | none same => exact same ▸ Nat.le_succ _
  | fresh name more => exact Nat.le_of_eq more.length_eq

end Claims

theorem claims_tensor (naming : Naming) (name : String) :
    naming.Claims (naming.tensor name).2 := by
  rw [tensor]
  cases found : naming.tensors.get? name with
  | some identifier => exact .none rfl
  | none =>
      have added := (Table.perm_insertEntry (naming.fresh name) found).append_right
        naming.nodes.entries
      exact .fresh name (added.map Prod.snd)

theorem claims_key (naming : Naming) (name : String) : naming.Claims (naming.key name).2 := by
  rw [key]
  cases found : naming.nodes.get? name with
  | some identifier => exact .none rfl
  | none =>
      have added := (Table.perm_insertEntry (naming.fresh name) found).append_left
        naming.tensors.entries
      exact .fresh name ((added.trans List.perm_middle).map Prod.snd)

theorem grows_tensor (naming : Naming) (name : String) :
    naming.Grows (naming.tensor name).2 := by
  have claims := naming.claims_tensor name
  rw [tensor] at claims ⊢
  cases found : naming.tensors.get? name with
  | some identifier => exact .refl naming
  | none =>
      rw [found] at claims
      exact ⟨get?_insert_of_some found, id, claims.distinct⟩

theorem grows_key (naming : Naming) (name : String) : naming.Grows (naming.key name).2 := by
  have claims := naming.claims_key name
  rw [key] at claims ⊢
  cases found : naming.nodes.get? name with
  | some identifier => exact .refl naming
  | none =>
      rw [found] at claims
      exact ⟨id, get?_insert_of_some found, claims.distinct⟩

theorem grows_node (naming : Naming) (name operator : String) :
    naming.Grows (naming.node name operator).2 := by
  rw [node]
  split
  · have counted : ∀ unnamed, naming.Grows { naming with unnamed } := fun _ => ⟨id, id, id⟩
    exact (counted _).trans (grows_key _ _)
  · exact grows_key naming name

/-! ## Identifiers of tensors and nodes -/

theorem get?_tensor (naming : Naming) (name : String) :
    (naming.tensor name).2.tensors.get? name = some (naming.tensor name).1 := by
  rw [tensor]
  cases found : naming.tensors.get? name with
  | some identifier => exact found
  | none => exact (Table.get?_insert _ _ _ _).trans (if_pos rfl)

theorem get?_key (naming : Naming) (name : String) :
    (naming.key name).2.nodes.get? name = some (naming.key name).1 := by
  rw [key]
  cases found : naming.nodes.get? name with
  | some identifier => exact found
  | none => exact (Table.get?_insert _ _ _ _).trans (if_pos rfl)

/-- Every node goes by a name that has its identifier. -/
theorem exists_get?_node (naming : Naming) (name operator : String) :
    ∃ key, (naming.node name operator).2.nodes.get? key =
      some (naming.node name operator).1 := by
  rw [node]
  split
  · exact ⟨_, get?_key _ _⟩
  · exact ⟨_, get?_key _ _⟩

/-- The identifier of a tensor that has one. -/
def identifier (naming : Naming) (name : String) : String :=
  (naming.tensors.get? name).getD ""

/-- Whether a tensor has an identifier. -/
def Knows (naming : Naming) (name : String) : Prop :=
  naming.tensors.get? name = some (naming.identifier name)

variable {naming : Naming}

theorem Grows.identifier_tensor {before : Naming} {name : String}
    (grows : (before.tensor name).2.Grows naming) :
    naming.identifier name = (before.tensor name).1 := by
  rw [identifier, grows.tensors (before.get?_tensor name), Option.getD_some]

theorem Grows.knows_tensor {before : Naming} {name : String}
    (grows : (before.tensor name).2.Grows naming) :
    naming.Knows name := by
  rw [Knows, grows.identifier_tensor]
  exact grows.tensors (before.get?_tensor name)

/-- What an identifier belongs to: a tensor by its name, or a node by the name it goes by. -/
inductive Holder
  | tensor (name : String)
  | node (key : String)

/-- The identifier of a tensor or a node, if it has one. -/
def held? (naming : Naming) : Holder → Option String
  | .tensor name => naming.tensors.get? name
  | .node key => naming.nodes.get? key

theorem Grows.held {before after : Naming} (grows : before.Grows after) {holder : Holder}
    {identifier : String} (held : before.held? holder = some identifier) :
    after.held? holder = some identifier := by
  cases holder with
  | tensor name => exact grows.tensors held
  | node key => exact grows.nodes held

/-- All identifiers in use with what they belong to. -/
def holders (naming : Naming) : List (Holder × String) :=
  (naming.tensors.entries.map fun entry => (.tensor entry.1, entry.2)) ++
    naming.nodes.entries.map fun entry => (.node entry.1, entry.2)

theorem map_snd_holders (naming : Naming) : naming.holders.map Prod.snd = naming.taken := by
  rw [holders, List.map_append, List.map_map, List.map_map, taken, List.map_append]
  rfl

theorem mem_holders {holder : Holder} {identifier : String}
    (held : naming.held? holder = some identifier) :
    (holder, identifier) ∈ naming.holders := by
  cases holder with
  | tensor name =>
      exact List.mem_append_left _
        (List.mem_map.mpr ⟨_, Table.mem_entries_of_get? held, rfl⟩)
  | node key =>
      exact List.mem_append_right _
        (List.mem_map.mpr ⟨_, Table.mem_entries_of_get? held, rfl⟩)

theorem mem_taken {holder : Holder} {identifier : String}
    (held : naming.held? holder = some identifier) :
    identifier ∈ naming.taken := by
  rw [← naming.map_snd_holders]
  exact List.mem_map_of_mem (mem_holders held)

/-- No two of the tensors and nodes have one identifier. -/
theorem Distinct.holder_inj (distinct : naming.Distinct) {first second : Holder}
    {identifier : String} (firstHeld : naming.held? first = some identifier)
    (secondHeld : naming.held? second = some identifier) :
    first = second := by
  rw [Distinct, ← naming.map_snd_holders] at distinct
  have entries := List.inj_on_of_nodup_map distinct (mem_holders firstHeld)
    (mem_holders secondHeld) rfl
  exact congrArg Prod.fst entries

theorem Distinct.holder_inj_iff (distinct : naming.Distinct) {first second : Holder}
    {one other : String} (firstHeld : naming.held? first = some one)
    (secondHeld : naming.held? second = some other) :
    one = other ↔ first = second := by
  constructor
  · rintro rfl
    exact distinct.holder_inj firstHeld secondHeld
  · rintro rfl
    exact Option.some.inj (firstHeld.symm.trans secondHeld)

/-- Different tensors have different identifiers. -/
theorem Distinct.identifier_inj (distinct : naming.Distinct) {first second : String}
    (firstKnown : naming.Knows first) (secondKnown : naming.Knows second)
    (same : naming.identifier first = naming.identifier second) :
    first = second := by
  have holders : Holder.tensor first = Holder.tensor second :=
    distinct.holder_inj firstKnown (same ▸ secondKnown)
  exact Holder.tensor.inj holders

/-- No tensor has the identifier of a node. -/
theorem Distinct.identifier_ne_node (distinct : naming.Distinct) {name key layer : String}
    (known : naming.Knows name) (named : naming.nodes.get? key = some layer) :
    naming.identifier name ≠ layer := by
  rintro rfl
  have holders : Holder.tensor name = Holder.node key := distinct.holder_inj known named
  cases holders

end Naming

end Network

end OnnxForge

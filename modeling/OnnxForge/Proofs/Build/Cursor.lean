import Mathlib.Algebra.GroupWithZero.Nat
import OnnxForge.Build.Cursor

/-!
# Handing arguments out

A cursor may be asked in any order and beyond the end of its arguments. Whatever the requests,
what they hand out and what they leave are together the present arguments, in order, so the
last check fails exactly if one of them was not handed out. Each request for a single argument
passes one entry, and the request for all that is left passes every entry there is.
-/

namespace OnnxForge.Build.Cursor

/-! ## Requests -/

/-- What a cursor is asked for. -/
inductive Request
  /-- The next argument, which must be present. -/
  | required
  /-- The next argument, if there is one. -/
  | optional
  /-- Every present argument that is left. -/
  | rest
deriving DecidableEq

/-- What a request is answered with. -/
inductive Reply
  | one (outcome : Except InputFault Argument)
  | maybe (argument : Option Argument)
  | many (arguments : List Argument)

namespace Reply

/-- The arguments that a reply hands out. -/
def arguments : Reply → List Argument
  | one (.ok argument) => [argument]
  | one (.error _) => []
  | maybe argument => argument.toList
  | many arguments => arguments

/-- The number of positions that a reply passes. -/
def positions : Reply → Nat
  | one _ | maybe _ => 1
  | many arguments => arguments.length

/-- Whether a request fails. -/
def Fails (reply : Reply) : Prop :=
  ∃ fault, reply = one (.error fault)

end Reply

/-- The reply to a request, and the cursor after it. -/
def answer (cursor : Cursor) : Request → Reply × Cursor
  | .required => (.one cursor.required.1, cursor.required.2)
  | .optional => (.maybe cursor.optional.1, cursor.optional.2)
  | .rest => (.many cursor.rest.1, cursor.rest.2)

/-- The replies to requests in a row, and the cursor after them. -/
def serve (cursor : Cursor) : List Request → List Reply × Cursor
  | [] => ([], cursor)
  | request :: others =>
    ((cursor.answer request).1 :: ((cursor.answer request).2.serve others).1,
      ((cursor.answer request).2.serve others).2)

/-- The present arguments that are not handed out yet. -/
def left (cursor : Cursor) : List Argument :=
  cursor.remaining.filterMap id

/-! ## A single request -/

/-- The entries that are left after a request. -/
def Request.pass (entries : List (Option Argument)) : Request → List (Option Argument)
  | .required | .optional => entries.tail
  | .rest => []

theorem required_eq (cursor : Cursor) :
    cursor.required =
      (match cursor.remaining.head?.join with
        | some argument => .ok argument
        | none => .error (.argumentMissing cursor.operator cursor.position),
        cursor.optional.2) := by
  rw [required, optional]
  cases cursor.remaining.head?.join <;> rfl

theorem remaining_answer (cursor : Cursor) (request : Request) :
    (cursor.answer request).2.remaining = request.pass cursor.remaining := by
  cases request with
  | required => rw [answer, required_eq]; rfl
  | optional => rfl
  | rest => rfl

/-- A request hands out the first of the arguments that are left, or none of them, or all. -/
theorem arguments_answer_append_left (cursor : Cursor) (request : Request) :
    (cursor.answer request).1.arguments ++ (cursor.answer request).2.left = cursor.left := by
  have next : cursor.remaining.head?.join.toList ++ cursor.remaining.tail.filterMap id =
      cursor.left := by
    rw [left]
    rcases cursor.remaining with _ | ⟨_ | argument, entries⟩ <;> rfl
  rw [left, remaining_answer]
  cases request with
  | required =>
      rw [answer, required_eq, ← next]
      cases cursor.remaining.head?.join <;> rfl
  | optional => exact next
  | rest => exact List.append_nil _

theorem position_answer (cursor : Cursor) (request : Request) :
    (cursor.answer request).2.position =
      cursor.position + (cursor.answer request).1.positions := by
  cases request with
  | required => rw [answer, required_eq]; rfl
  | optional => rfl
  | rest => rfl

theorem operator_answer (cursor : Cursor) (request : Request) :
    (cursor.answer request).2.operator = cursor.operator := by
  cases request with
  | required => rw [answer, required_eq]; rfl
  | optional => rfl
  | rest => rfl

/-- Only the request for an argument that is missing fails. -/
theorem fails_answer_iff (cursor : Cursor) (request : Request) :
    (cursor.answer request).1.Fails ↔
      request = .required ∧ cursor.remaining.head?.join = none := by
  cases request with
  | required =>
      rw [answer, required_eq]
      cases cursor.remaining.head?.join <;> simp [Reply.Fails]
  | optional => simp [answer, Reply.Fails]
  | rest => simp [answer, Reply.Fails]

/-! ## Requests in a row -/

/-- What is handed out and what is left are together what was left before. -/
theorem arguments_serve_append_left (cursor : Cursor) (requests : List Request) :
    (cursor.serve requests).1.flatMap Reply.arguments ++ (cursor.serve requests).2.left =
      cursor.left := by
  induction requests generalizing cursor with
  | nil => rfl
  | cons request others ih =>
      rw [serve, List.flatMap_cons, List.append_assoc, ih, arguments_answer_append_left]

theorem position_serve (cursor : Cursor) (requests : List Request) :
    (cursor.serve requests).2.position =
      cursor.position + ((cursor.serve requests).1.map Reply.positions).sum := by
  induction requests generalizing cursor with
  | nil => rfl
  | cons request others ih =>
      rw [serve, List.map_cons, List.sum_cons, ih, position_answer, Nat.add_assoc]

theorem operator_serve (cursor : Cursor) (requests : List Request) :
    (cursor.serve requests).2.operator = cursor.operator := by
  induction requests generalizing cursor with
  | nil => rfl
  | cons request others ih => exact (ih _).trans (cursor.operator_answer request)

/-- Requests for single arguments pass an entry each, and nothing is left after the others. -/
theorem remaining_serve (cursor : Cursor) (requests : List Request) :
    (cursor.serve requests).2.remaining =
      if .rest ∈ requests then [] else cursor.remaining.drop requests.length := by
  induction requests generalizing cursor with
  | nil => rfl
  | cons request others ih =>
      change ((cursor.answer request).2.serve others).2.remaining = _
      rw [ih, remaining_answer]
      cases request <;> simp [Request.pass]

/-- No request fails exactly if every one that needs an argument finds it at its own position,
before all that is left is handed out. -/
theorem not_fails_serve_iff (cursor : Cursor) (requests : List Request) :
    (∀ reply ∈ (cursor.serve requests).1, ¬reply.Fails) ↔
      ∀ index, requests[index]? = some .required →
        .rest ∉ requests.take index ∧
          ∃ argument, cursor.remaining[index]? = some (some argument) := by
  induction requests generalizing cursor with
  | nil => simp [serve]
  | cons request others ih =>
      rw [serve, List.forall_mem_cons, ih, remaining_answer, fails_answer_iff]
      refine Iff.trans ?_ Nat.and_forall_add_one
      refine and_congr ?_ (forall_congr' fun index => ?_)
      · rcases cursor.remaining with _ | ⟨_ | argument, entries⟩ <;> simp
      · cases request <;> simp [Request.pass]

/-! ## The last check -/

/-- The last check fails when something is left, and tells how much. -/
theorem finish_eq_error_iff (cursor : Cursor) (fault : InputFault) :
    cursor.finish = .error fault ↔
      cursor.left ≠ [] ∧
        fault = .argumentsLeft cursor.operator cursor.position cursor.left.length := by
  rw [finish, left]
  cases cursor.remaining.filterMap id with
  | nil => simp
  | cons argument others => simp [eq_comm]

theorem finish_eq_ok_iff (cursor : Cursor) : cursor.finish = .ok () ↔ cursor.left = [] := by
  rw [finish, left]
  cases cursor.remaining.filterMap id <;> simp

/-- Nothing is left exactly if no entry beyond those passed is present. -/
theorem left_serve_eq_nil_iff (cursor : Cursor) (requests : List Request) :
    (cursor.serve requests).2.left = [] ↔
      .rest ∈ requests ∨ ∀ index argument,
        cursor.remaining[index]? = some (some argument) → index < requests.length := by
  rw [left, remaining_serve, List.filterMap_eq_nil_iff]
  by_cases drained : .rest ∈ requests
  · simp [drained]
  · rw [if_neg drained]
    constructor
    · intro absent
      refine .inr fun index argument present => Nat.lt_of_not_le fun beyond => ?_
      have place : (cursor.remaining.drop requests.length)[index - requests.length]? =
          some (some argument) := by
        rw [List.getElem?_drop, Nat.add_sub_cancel' beyond, present]
      cases absent _ (List.mem_of_getElem? place)
    · rintro (isDrained | within) entry member
      · exact (drained isDrained).elim
      · cases entry with
        | none => rfl
        | some argument =>
            rcases List.mem_iff_getElem?.mp member with ⟨index, place⟩
            rw [List.getElem?_drop] at place
            exact absurd (within _ argument place) (Nat.not_lt.mpr (Nat.le_add_right _ _))

/--
Requests are made in any order and number, and then the last check.  What they have handed out
begins the list of the present arguments, so nothing is dropped, repeated or moved.  The check
succeeds exactly if they have handed out all of them, and fails with the number of positions
passed and of the arguments that were never handed out.  That depends on the entries alone: each
request passes one entry, or all of them, and fails exactly if it needs an argument that is not
present there.
-/
theorem arguments_handed_out (operator : String) (arguments : List (Option Argument))
    (requests : List Request) :
    let served := (start operator arguments).serve requests
    let handed := served.1.flatMap Reply.arguments
    let present := arguments.filterMap id
    handed <+: present ∧
    (served.2.finish = .ok () ↔ handed = present) ∧
    (∀ fault, served.2.finish = .error fault ↔
      handed.length < present.length ∧
        fault = .argumentsLeft operator (served.1.map Reply.positions).sum
          (present.length - handed.length)) ∧
    (served.2.finish = .ok () ↔
      .rest ∈ requests ∨ ∀ index argument,
        arguments[index]? = some (some argument) → index < requests.length) ∧
    ((∀ reply ∈ served.1, ¬reply.Fails) ↔
      ∀ index, requests[index]? = some .required →
        .rest ∉ requests.take index ∧ ∃ argument, arguments[index]? = some (some argument)) := by
  intro served handed present
  have whole : handed ++ served.2.left = present :=
    arguments_serve_append_left (start operator arguments) requests
  have lengths : handed.length + served.2.left.length = present.length := by
    rw [← List.length_append, whole]
  refine ⟨⟨_, whole⟩, ?_, fun fault => ?_, ?_, not_fails_serve_iff _ _⟩
  · rw [finish_eq_ok_iff, ← whole, List.self_eq_append_right]
  · have passed : served.2.position = (served.1.map Reply.positions).sum :=
      (position_serve _ _).trans (Nat.zero_add _)
    have named : served.2.operator = operator := operator_serve _ _
    have few : served.2.left ≠ [] ↔ handed.length < present.length := by
      rw [← List.length_pos_iff]
      omega
    have rest : served.2.left.length = present.length - handed.length := by
      omega
    rw [finish_eq_error_iff, few, passed, named, rest]
  · rw [finish_eq_ok_iff]
    exact left_serve_eq_nil_iff _ _

/-- A missing argument is passed over when it is optional. -/
example :
    let served := (start "Clip" [some (.name "x"), none, some (.name "max")]).serve
      [.required, .optional, .optional]
    served.1 = [.one (.ok (.name "x")), .maybe none, .maybe (some (.name "max"))] ∧
      served.2.finish = .ok () :=
  ⟨rfl, rfl⟩

end OnnxForge.Build.Cursor

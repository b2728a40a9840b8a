import OnnxForge.Binding.Call
import OnnxForge.Proofs.Build.Cursor

/-!
# Arguments of a dispatcher

A dispatcher hands its positional arguments out to the parameters of a function: each
parameter makes a request of a cursor, and is bound to what that hands out. When
it comes to call the function, the inputs that the function stages are the arguments
that are present, in the order in which they were given. A call is therefore one of the
builder with the arguments of the dispatcher, once all is found that the builder asks for.
-/

namespace OnnxForge.Binding

open Build

namespace Function

/-- A parameter that takes one argument at most stages it before the others. -/
theorem arguments_cons_fixed
    {parameter : Parameter} (bound : Bound) (environment : Environment)
    (fixed : parameter.kind ≠ .variadic) :
    arguments ((parameter, bound) :: environment) =
      bound.single? :: arguments environment := by
  simp [arguments, fixed]

/-- The first variadic parameter stages its arguments after the fixed ones. -/
theorem arguments_cons_variadic
    {parameter : Parameter} (bound : Bound) (environment : Environment)
    (variadic : parameter.kind = .variadic) :
    arguments ((parameter, bound) :: environment) =
      (environment.filter fun (parameter, _) => parameter.kind != .variadic).map
          (·.2.single?) ++
        bound.several.map some := by
  simp [arguments, variadic]

end Function

/-- What a parameter asks a cursor for. -/
def Parameter.request (parameter : Parameter) : Cursor.Request :=
  match parameter.kind with
  | .required => .required
  | .optional => .optional
  | .variadic => .rest

/-- The reply by which a parameter is bound. -/
def Bound.reply : Bound → Cursor.Reply
  | one argument => .one (.ok argument)
  | maybe argument => .maybe argument
  | many arguments => .many arguments

namespace Dispatcher

/-- A parameter takes what a cursor answers its request with. -/
theorem take_eq_ok_iff {parameter : Parameter} {cursor left : Cursor} {bound : Bound} :
    take parameter cursor = .ok (bound, left) ↔
      cursor.answer parameter.request = (bound.reply, left) := by
  rw [take, Parameter.request]
  cases parameter.kind with
  | required =>
      rw [Cursor.answer]
      rcases cursor.required with ⟨_ | argument, rest⟩ <;> cases bound <;> simp [Bound.reply]
  | optional => cases bound <;> simp [Cursor.answer, Bound.reply]
  | variadic => cases bound <;> simp [Cursor.answer, Bound.reply]

theorem takeAll_nil_eq_ok {cursor : Cursor} {environment : Environment} :
    takeAll [] cursor = .ok environment ↔ cursor.left = [] ∧ environment = [] := by
  rw [takeAll, ← Cursor.finish_eq_ok_iff]
  cases cursor.finish with
  | error fault => exact ⟨nofun, nofun⟩
  | ok _ =>
      constructor
      · intro taken
        cases taken
        exact ⟨rfl, rfl⟩
      · rintro ⟨_, rfl⟩
        rfl

/--
The first of several parameters takes from a cursor, and the others take from what it
leaves.
-/
theorem takeAll_cons_eq_ok {parameter : Parameter} {rest : List Parameter}
    {cursor : Cursor} {environment : Environment} :
    takeAll (parameter :: rest) cursor = .ok environment ↔
      ∃ bound left others, take parameter cursor = .ok (bound, left) ∧
        takeAll rest left = .ok others ∧ environment = (parameter, bound) :: others := by
  rw [takeAll, Attempt.outcome_bind_eq_ok]
  constructor
  · rintro ⟨⟨bound, left⟩, first, following⟩
    rcases Attempt.outcome_bind_eq_ok.mp following with ⟨others, last, same⟩
    cases same
    exact ⟨bound, left, others, first, last, rfl⟩
  · rintro ⟨bound, left, others, first, last, rfl⟩
    exact ⟨(bound, left), first, Attempt.outcome_bind_eq_ok.mpr ⟨others, last, rfl⟩⟩

/-- Parameters are bound to the present arguments of a cursor, in order and to all of them. -/
theorem present_arguments_of_takeAll {parameters : List Parameter} {cursor : Cursor}
    {environment : Environment}
    (taken : takeAll parameters cursor = .ok environment) :
    (Function.arguments environment).filterMap id = cursor.left := by
  induction parameters generalizing cursor environment with
  | nil =>
      rcases takeAll_nil_eq_ok.mp taken with ⟨nothing, rfl⟩
      exact nothing.symm
  | cons parameter rest ih =>
      rcases takeAll_cons_eq_ok.mp taken with ⟨bound, left, others, first, following, rfl⟩
      have answered := take_eq_ok_iff.mp first
      have whole := cursor.arguments_answer_append_left parameter.request
      rw [answered, ← ih following] at whole
      rw [← whole]
      cases kind : parameter.kind with
      | required | optional =>
          rw [Function.arguments_cons_fixed bound others (by simp [kind])]
          rw [Parameter.request, kind] at answered
          cases bound with
          | one argument => rfl
          | maybe argument => cases argument <;> rfl
          | many arguments => cases congrArg Prod.fst answered
      | variadic =>
          rw [Function.arguments_cons_variadic bound others kind, List.filterMap_append]
          rw [Parameter.request, kind] at answered
          cases bound with
          | one argument | maybe argument => cases congrArg Prod.fst answered
          | many arguments =>
              cases answered
              have nothing : (Function.arguments others).filterMap id = [] := ih following
              have nothingFixed := nothing
              rw [Function.arguments, List.filterMap_append] at nothingFixed
              rw [nothing, (List.append_eq_nil_iff.mp nothingFixed).1]
              simp [Bound.several, Bound.reply, Cursor.Reply.arguments]

end Dispatcher

end OnnxForge.Binding

namespace OnnxForge.Build

open Attempt

/-! ## Present arguments -/

/-- Arguments that are missing take no part in collecting. -/
theorem Collecting.addAll_present (arguments : List (Option Argument)) :
    addAll arguments = addAll ((arguments.filterMap id).map some) := by
  induction arguments with
  | nil => rfl
  | cons argument rest ih =>
      cases argument with
      | none => exact ih
      | some argument => exact bind_congr fun _ => ih

theorem Building.addNode_congr {arguments others : List (Option Argument)}
    (same : arguments.filterMap id = others.filterMap id)
    (operator domain : String) (version : Int64) (count : OutputCount)
    (attributes : Attributes) :
    addNode operator domain version arguments count attributes =
      addNode operator domain version others count attributes := by
  have collected : collect arguments = collect others := by
    rw [collect, collect, Collecting.addAll_present arguments, same,
      ← Collecting.addAll_present others]
  rw [addNode, collected, ← addNode]

end OnnxForge.Build

namespace OnnxForge.Binding

open Attempt Build

variable {attributes : Attributes} {before after : Builder} {node : Message.Node}

/-! ## Calls -/

/-- A function finds the number of outputs, and leaves the rest to the builder. -/
theorem Function.call_eq_ok {function : Function} {environment : Environment} :
    function.call environment attributes before = (.ok node, after) ↔
      ∃ count, Function.count environment attributes function.countRule = .ok count ∧
        Building.addNode function.operator function.domain function.version
          (arguments environment) count attributes before = (.ok node, after) := by
  rw [call, bind_eq_ok]
  constructor
  · rintro ⟨count, _, counted, making⟩
    rcases ofExcept_eq_ok.mp counted with ⟨known, rfl⟩
    exact ⟨count, known, making⟩
  · rintro ⟨count, known, making⟩
    exact ⟨count, before, ofExcept_eq_ok.mpr ⟨known, rfl⟩, making⟩

/-- A dispatcher that succeeds has resolved a version, bound the parameters of its function,
found the number of outputs, and added a node of its own arguments. -/
theorem Dispatcher.call_eq_ok {dispatcher : Dispatcher} {arguments : List (Option Argument)} :
    dispatcher.call arguments attributes before = (.ok node, after) ↔
      ∃ schema function environment count,
        before.resolve dispatcher.operator dispatcher.domain = .ok schema ∧
        dispatcher.armOf schema.sinceVersion = .ok function ∧
        takeAll function.parameters (.start dispatcher.operator arguments) =
          .ok environment ∧
        Function.count environment attributes function.countRule = .ok count ∧
        Building.addNode function.operator function.domain function.version arguments count
          attributes before = (.ok node, after) := by
  have sameNode : ∀ {function : Function} {environment : Environment},
      takeAll function.parameters (.start dispatcher.operator arguments) = .ok environment →
      ∀ count, Building.addNode function.operator function.domain function.version
          (Function.arguments environment) count attributes =
        Building.addNode function.operator function.domain function.version arguments count
          attributes :=
    fun bound count =>
      Building.addNode_congr (present_arguments_of_takeAll bound) _ _ _ count attributes
  rw [call, bind_eq_ok]
  constructor
  · rintro ⟨_, _, read, resolving⟩
    cases read
    rcases bind_eq_ok.mp resolving with ⟨schema, _, resolved, choosing⟩
    rcases ofExcept_eq_ok.mp resolved with ⟨found, rfl⟩
    rcases bind_eq_ok.mp choosing with ⟨function, _, chosen, binding⟩
    rcases ofExcept_eq_ok.mp chosen with ⟨arm, rfl⟩
    rcases bind_eq_ok.mp binding with ⟨environment, _, taking, calling⟩
    rcases ofExcept_eq_ok.mp taking with ⟨bound, rfl⟩
    rcases Function.call_eq_ok.mp calling with ⟨count, counted, making⟩
    exact ⟨schema, function, environment, count, found, arm, bound, counted,
      sameNode bound count ▸ making⟩
  · rintro ⟨schema, function, environment, count, found, arm, bound, counted, making⟩
    refine ⟨before, before, rfl, ?_⟩
    refine bind_eq_ok.mpr ⟨schema, before, ofExcept_eq_ok.mpr ⟨found, rfl⟩, ?_⟩
    refine bind_eq_ok.mpr ⟨function, before, ofExcept_eq_ok.mpr ⟨arm, rfl⟩, ?_⟩
    refine bind_eq_ok.mpr ⟨environment, before, ofExcept_eq_ok.mpr ⟨bound, rfl⟩, ?_⟩
    exact Function.call_eq_ok.mpr ⟨count, counted, sameNode bound count ▸ making⟩

end OnnxForge.Binding

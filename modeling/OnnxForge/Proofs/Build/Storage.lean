import OnnxForge.Catalogue.Builtin.Arrangement
import OnnxForge.Proofs.Build.Session
import OnnxForge.Proofs.Text.Numeral

/-!
# Storage of arrays

A staging names its arrays before they are in the graph, and two stagings may promise
one name. Names stay right because a staging numbers its arrays on from the number of
initializers that the graph had, and is refused when the graph has another number by
then: initializers are named by their places at any time, and every array of a node is
at the place that its name tells.
-/

namespace OnnxForge.Build

open Attempt

theorem initializerName_injective {m n : Nat}
    (same : initializerName m = initializerName n) : m = n :=
  Text.natural_injective ((String.append_right_inj _).mp same)

/-! ## Numbered initializers -/

/-- Tensors that are named by their places, the first one at a given place. -/
def Numbered (first : Nat) (tensors : List Message.Tensor) : Prop :=
  ∀ (offset : Nat) (tensor : Message.Tensor), tensors[offset]? = some tensor →
    tensor.name = initializerName (first + offset)

namespace Numbered

variable {first : Nat} {tensors more : List Message.Tensor} {tensor : Message.Tensor}

theorem nil : Numbered first [] := by
  intro offset tensor found
  cases found

theorem singleton (name : tensor.name = initializerName first) : Numbered first [tensor] := by
  intro offset other found
  cases offset with
  | zero =>
      rcases Option.some.inj found with rfl
      exact name
  | succ offset => cases found

theorem append (numbered : Numbered first tensors)
    (following : Numbered (first + tensors.length) more) :
    Numbered first (tensors ++ more) := by
  intro offset tensor found
  by_cases early : offset < tensors.length
  · rw [List.getElem?_append_left early] at found
    exact numbered offset tensor found
  · rw [List.getElem?_append_right (Nat.le_of_not_lt early)] at found
    have name := following _ tensor found
    have place : first + tensors.length + (offset - tensors.length) = first + offset := by
      omega
    rwa [place] at name

theorem tail (numbered : Numbered first (tensor :: tensors)) :
    Numbered (first + 1) tensors := by
  intro offset other found
  have name := numbered (offset + 1) other (by simpa using found)
  have place : first + (offset + 1) = first + 1 + offset := by omega
  rwa [place] at name

/-- No tensor from a place on has the name of an earlier place. -/
theorem filter_earlier (numbered : Numbered first tensors) {place : Nat}
    (earlier : place < first) :
    tensors.filter (fun tensor => tensor.name == initializerName place) = [] := by
  rw [List.filter_eq_nil_iff]
  intro tensor member same
  rcases List.mem_iff_getElem?.mp member with ⟨offset, found⟩
  have name : tensor.name = initializerName place := by simpa using same
  have places := initializerName_injective (name.symm.trans (numbered offset tensor found))
  omega

/-- The name of a place belongs to the tensor at the place alone. -/
theorem filter_place (numbered : Numbered first tensors) {offset : Nat}
    (found : tensors[offset]? = some tensor) :
    tensors.filter (fun tensor => tensor.name == initializerName (first + offset)) =
      [tensor] := by
  induction tensors generalizing first offset with
  | nil => cases found
  | cons head rest ih =>
      have headName := numbered 0 head rfl
      cases offset with
      | zero =>
          obtain rfl : head = tensor := Option.some.inj found
          have others := numbered.tail.filter_earlier (Nat.lt_succ_self first)
          simpa [headName] using others
      | succ offset =>
          have different : (head.name == initializerName (first + (offset + 1))) = false := by
            rw [beq_eq_false_iff_ne, headName]
            intro same
            have places := initializerName_injective same
            omega
          have foundLater : rest[offset]? = some tensor := by simpa using found
          have later := ih numbered.tail foundLater
          have place : first + 1 + offset = first + (offset + 1) := by omega
          rw [List.filter_cons, different, ← place]
          simpa using later

end Numbered

/-! ## Arguments and the initializers of a graph -/

/--
The inputs that arguments stand for, when arrays are initializers from a first place on:
`Stored tensors first arguments inputs next` says that every array is the entry at its
place and the only one of the name that stands for it among the inputs.  The places go
up by one with each array, to the one before `next`.
-/
inductive Stored (tensors : List Message.Tensor) (first : Nat) :
    List Argument → List String → Nat → Prop where
  | start : Stored tensors first [] [] first
  | array {arguments : List Argument} {inputs : List String} {place : Nat} {tensor : Tensor}
      (earlier : Stored tensors first arguments inputs place)
      (entry : tensors[place]? = some (tensor.toMessage (initializerName place)))
      (alone : tensors.filter (fun stored => stored.name == initializerName place) =
        [tensor.toMessage (initializerName place)]) :
      Stored tensors first (arguments ++ [.array tensor])
        (inputs ++ [initializerName place]) (place + 1)
  | name {arguments : List Argument} {inputs : List String} {place : Nat} {name : String}
      (earlier : Stored tensors first arguments inputs place) :
      Stored tensors first (arguments ++ [.name name]) (inputs ++ [name]) place
  | names {arguments : List Argument} {inputs : List String} {place : Nat}
      {names : List String}
      (earlier : Stored tensors first arguments inputs place) :
      Stored tensors first (arguments ++ [.names names]) (inputs ++ names) place
  | node {arguments : List Argument} {inputs : List String} {place : Nat}
      {source : Message.Node} {output : String}
      (earlier : Stored tensors first arguments inputs place)
      (leads : source.outputs.head? = some output) :
      Stored tensors first (arguments ++ [.node source]) (inputs ++ [output]) place

namespace Collected

variable {base : Nat} {arguments : List Argument} {staging : Staging}

/-- A staging numbers its initializers from its base on. -/
theorem numbered (collected : Collected base arguments staging) :
    Numbered base staging.initializers := by
  induction collected with
  | start => exact .nil
  | add earlier added ih =>
      rcases Collecting.add_contribution added with ⟨names, new, contribution, rfl⟩
      refine ih.append ?_
      rw [earlier.base_eq] at contribution
      cases contribution with
      | array fits => exact .singleton (Tensor.toMessage_name _ _)
      | name given => exact .nil
      | names given => exact .nil
      | node leads => exact .nil

/-- Where the initializers of a staging are in place, its arguments are stored. -/
theorem stored (collected : Collected base arguments staging)
    {tensors : List Message.Tensor}
    (allNumbered : Numbered 0 tensors)
    (inPlace : ∀ (offset : Nat) (tensor : Message.Tensor),
      staging.initializers[offset]? = some tensor →
        tensors[base + offset]? = some tensor) :
    Stored tensors base arguments staging.names (base + staging.initializers.length) := by
  induction collected with
  | start => exact .start
  | @add arguments argument before after earlier added ih =>
      rcases Collecting.add_contribution added with ⟨names, new, contribution, rfl⟩
      have earlierStored := ih fun offset tensor found => by
        have early := (List.getElem?_eq_some_iff.mp found).1
        apply inPlace
        rw [Staging.extended, List.getElem?_append_left early]
        exact found
      rw [earlier.base_eq] at contribution
      cases contribution with
      | @array tensor fits =>
          have entry : tensors[base + before.initializers.length]? =
              some (tensor.toMessage (initializerName (base + before.initializers.length))) :=
            inPlace before.initializers.length _ (by simp [Staging.extended])
          have alone := allNumbered.filter_place entry
          rw [Nat.zero_add] at alone
          simpa [Staging.extended, Nat.add_assoc] using Stored.array earlierStored entry alone
      | name given => simpa [Staging.extended] using Stored.name earlierStored
      | names given => simpa [Staging.extended] using Stored.names earlierStored
      | node leads => simpa [Staging.extended] using Stored.node earlierStored leads

end Collected

/-! ## Along a session -/

namespace Effect

variable {arguments : List Argument} {before after : Builder} {answer : Option Answer}

theorem numbered (effect : Effect arguments before answer after)
    (beforeNumbered : Numbered 0 before.graph.initializers) :
    Numbered 0 after.graph.initializers := by
  cases effect with
  | initializer tensor =>
      refine beforeNumbered.append (.singleton ?_)
      rw [Tensor.toMessage_name, Nat.zero_add]
  | node committed =>
      rcases committed with ⟨found, collected, made, conforms⟩
      refine beforeNumbered.append ?_
      rw [Nat.zero_add]
      exact collected.numbered
  | _ => exact beforeNumbered

/-- An initializer stays at its place. -/
theorem initializers_grow (effect : Effect arguments before answer after) :
    before.graph.initializers <+: after.graph.initializers := by
  cases effect with
  | initializer tensor => exact List.prefix_append _ _
  | node committed =>
      rcases committed with ⟨found, collected, made, conforms⟩
      exact List.prefix_append _ _
  | _ => exact List.prefix_rfl

end Effect

/-- The arguments of a node that was committed are stored wherever its initializers are. -/
theorem Committed.stored {arguments : List Argument} {before after : Builder}
    {node : Message.Node} (committed : Committed arguments before node after)
    {tensors : List Message.Tensor} (allNumbered : Numbered 0 tensors)
    (kept : after.graph.initializers <+: tensors) :
    Stored tensors before.graph.initializers.length arguments node.inputs
      after.graph.initializers.length := by
  rcases committed with ⟨found, collected, rfl, conforms⟩
  rcases kept with ⟨more, rfl⟩
  have stored := collected.stored allNumbered fun offset tensor found => by
    have early := (List.getElem?_eq_some_iff.mp found).1
    rw [Builder.commit_initializers, List.append_assoc, List.getElem?_append_right (by omega),
      Nat.add_sub_cancel_left, List.getElem?_append_left early]
    exact found
  rw [Builder.commit_initializers, List.length_append]
  exact stored

namespace Session

variable {session : Session}

theorem Honest.numbered_run (honest : session.Honest)
    (numbered : Numbered 0 session.builder.graph.initializers) (calls : List Call) :
    Numbered 0 (session.run calls).builder.graph.initializers :=
  honest.builder_invariant (fun builder => Numbered 0 builder.graph.initializers)
    Effect.numbered numbered calls

/-- Every initializer stays at its place for the rest of a session. -/
theorem Honest.initializers_grow (honest : session.Honest) (calls : List Call) :
    session.builder.graph.initializers <+: (session.run calls).builder.graph.initializers :=
  honest.builder_invariant
    (fun builder => session.builder.graph.initializers <+: builder.graph.initializers)
    (fun effect kept => kept.trans effect.initializers_grow) List.prefix_rfl calls

/--
In every session the initializer at a place is named for the place.  A node that a call
makes joins the graph with its arrays: in every later state each of them is at the place
that its name among the inputs tells, and no other initializer has the name.
-/
theorem arrays_stored (catalogue : Catalogue) (calls : List Call) :
    let session := (start catalogue).run calls
    (∀ place tensor, session.builder.graph.initializers[place]? = some tensor →
      tensor.name = initializerName place) ∧
    ∀ call node, session.made? call = some node →
      (session.perform call).builder.graph.nodes = session.builder.graph.nodes ++ [node] ∧
      ∀ later,
        Stored ((session.perform call).run later).builder.graph.initializers
          session.builder.graph.initializers.length (session.offered call) node.inputs
          (session.perform call).builder.graph.initializers.length := by
  intro session
  have honest : session.Honest := (honest_start catalogue).run calls
  have numbered : Numbered 0 session.builder.graph.initializers :=
    (honest_start catalogue).numbered_run .nil calls
  constructor
  · intro place tensor found
    simpa using numbered place tensor found
  · intro call node made
    have committed := committed_of_made honest made
    refine ⟨committed.nodes_eq, fun later => ?_⟩
    have allNumbered := honest.numbered_run numbered (call :: later)
    exact committed.stored allNumbered ((honest.perform call).initializers_grow later)

/--
A draft and its copy promise one name for two arrays.  The one that is offered first has
it, also after the other one was offered.
-/
theorem arrays_stored_of_copy :
    let zero : Tensor := ⟨.float32, [], .float32 [0]⟩
    let one : Tensor := ⟨.float32, [], .float32 [0x3F800000]⟩
    let session := (start (.ofList Catalogue.Builtin.concatVersions)).run
      [.stage, .extend 0 (some (.array zero)), .copy 0, .extend 0 (some (.array zero)),
        .extend 1 (some (.array one))]
    let offer (draft : Nat) : Call := .makeNode draft "Concat" "" 1 .declared .empty
    ∃ node, session.made? (offer 1) = some node ∧
      Stored ((session.perform (offer 1)).run [offer 0]).builder.graph.initializers 0
        [.array zero, .array one] node.inputs 2 := by
  intro zero one session offer
  have stored := (arrays_stored (.ofList Catalogue.Builtin.concatVersions)
    [.stage, .extend 0 (some (.array zero)), .copy 0, .extend 0 (some (.array zero)),
      .extend 1 (some (.array one))]).2 (offer 1)
  exact ⟨_, rfl, (stored _ rfl).2 [offer 0]⟩

end Session

end OnnxForge.Build

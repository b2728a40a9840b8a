import OnnxForge.Proofs.Build.Session
import OnnxForge.Proofs.Text.Numeral

/-!
# Counted nodes

The counter of an operator is the number of its nodes in the graph, of any domain and
version, and these nodes are named in order for the operator and the numbers below the
counter. Nodes of different operators have different names as well: the name of a node
tells its operator, which stands before the last underscore, even where the operator has
underscores and digits of its own.
-/

namespace OnnxForge.Build

namespace Builder

/-- The nodes of an operator, in the order of the graph. -/
def nodesOf (builder : Builder) (operator : String) : List Message.Node :=
  builder.graph.nodes.filter fun node => node.opType == operator

/-- The nodes of every operator are named for it and the numbers below its counter. -/
def Counted (builder : Builder) : Prop :=
  ∀ operator, (builder.nodesOf operator).map (·.name) =
    (List.range (builder.operatorCount operator)).map fun index =>
      operator ++ "_" ++ Text.natural index

theorem operatorCount_commit (builder : Builder) (node : Message.Node)
    (initializers : List Message.Tensor) (operator : String) :
    (builder.commit node initializers).operatorCount operator =
      if node.opType = operator then builder.operatorCount operator + 1
      else builder.operatorCount operator := by
  change ((builder.counters.insert node.opType _).get? operator).getD 0 = _
  rw [Table.get?_insert]
  by_cases same : operator = node.opType
  · simp [same, operatorCount, withNode, withInitializers]
  · simp [same, Ne.symm same, operatorCount]

theorem nodesOf_commit (builder : Builder) (node : Message.Node)
    (initializers : List Message.Tensor) (operator : String) :
    (builder.commit node initializers).nodesOf operator =
      builder.nodesOf operator ++ if node.opType = operator then [node] else [] := by
  rw [nodesOf, commit_nodes, List.filter_append, ← nodesOf]
  by_cases same : node.opType = operator
  · simp [same]
  · simp [same]

/-! ## Consequences of correct counts -/

namespace Counted

variable {builder : Builder}

theorem length_eq (counted : builder.Counted) (operator : String) :
    (builder.nodesOf operator).length = builder.operatorCount operator := by
  simpa using congrArg List.length (counted operator)

/-- Every node is named for its operator and a number below the counter. -/
theorem name_eq (counted : builder.Counted) {node : Message.Node}
    (member : node ∈ builder.graph.nodes) :
    ∃ index < builder.operatorCount node.opType,
      node.name = node.opType ++ "_" ++ Text.natural index := by
  have memberOf : node ∈ builder.nodesOf node.opType :=
    List.mem_filter.mpr ⟨member, by simp⟩
  have named := List.mem_map_of_mem (f := (·.name)) memberOf
  rw [counted node.opType] at named
  rcases List.mem_map.mp named with ⟨index, below, same⟩
  exact ⟨index, List.mem_range.mp below, same.symm⟩

theorem nodup_namesOf (counted : builder.Counted) (operator : String) :
    ((builder.nodesOf operator).map (·.name)).Nodup := by
  rw [counted operator]
  refine List.Pairwise.map _ ?_ List.nodup_range
  intro first second different same
  exact different (Text.numbered_inj same).2

end Counted

end Builder

/-- Names that tell the operator, and differ within each operator, differ altogether. -/
theorem nodup_names_of_operators {nodes : List Message.Node}
    (named : ∀ node ∈ nodes, ∃ index, node.name = node.opType ++ "_" ++ Text.natural index)
    (distinct : ∀ operator,
      ((nodes.filter fun node => node.opType == operator).map (·.name)).Nodup) :
    (nodes.map (·.name)).Nodup := by
  induction nodes with
  | nil => exact List.nodup_nil
  | cons node rest ih =>
      have ⟨headNamed, restNamed⟩ := List.forall_mem_cons.mp named
      rw [List.map_cons, List.nodup_cons]
      constructor
      · intro repeated
        rcases List.mem_map.mp repeated with ⟨other, member, sameName⟩
        rcases headNamed with ⟨index, headName⟩
        rcases restNamed other member with ⟨otherIndex, otherName⟩
        have sameOperator : other.opType = node.opType :=
          (Text.numbered_inj (otherName.symm.trans (sameName.trans headName))).1
        have nodupOf := distinct node.opType
        rw [List.filter_cons_of_pos (by simp), List.map_cons, List.nodup_cons] at nodupOf
        apply nodupOf.1
        rw [← sameName]
        exact List.mem_map_of_mem (List.mem_filter.mpr ⟨member, by simp [sameOperator]⟩)
      · apply ih restNamed
        intro operator
        have kept : (rest.filter fun node => node.opType == operator).Sublist
            ((node :: rest).filter fun node => node.opType == operator) :=
          (List.sublist_cons_self node rest).filter _
        exact (kept.map _).nodup (distinct operator)

theorem Builder.Counted.nodup_names {builder : Builder} (counted : builder.Counted) :
    (builder.graph.nodes.map (·.name)).Nodup := by
  refine nodup_names_of_operators ?_ counted.nodup_namesOf
  intro node member
  rcases counted.name_eq member with ⟨index, _, name⟩
  exact ⟨index, name⟩

/-! ## Along a session -/

namespace Effect

variable {arguments : List Argument} {before after : Builder} {answer : Option Answer}

theorem counted (effect : Effect arguments before answer after)
    (beforeCounted : before.Counted) :
    after.Counted := by
  cases effect with
  | node committed =>
      rcases committed with ⟨found, collected, rfl, conforms⟩
      intro operator
      rw [Builder.nodesOf_commit, Builder.operatorCount_commit, Builder.nodeMessage_opType,
        List.map_append, beforeCounted operator]
      split
      next same =>
        rw [List.range_succ, List.map_append, ← same]
        rfl
      next different => simp
  | _ => exact beforeCounted

/-- The counter of an operator goes up with a node of the operator, and with nothing else. -/
theorem operatorCount_eq (effect : Effect arguments before answer after)
    (operator : String) :
    after.operatorCount operator =
      match answer.bind Answer.node? with
      | none => before.operatorCount operator
      | some made =>
        if made.opType = operator then before.operatorCount operator + 1
        else before.operatorCount operator := by
  cases effect with
  | node committed =>
      rcases committed with ⟨found, collected, made, conforms⟩
      exact Builder.operatorCount_commit _ _ _ operator
  | _ => rfl

end Effect

namespace Session

theorem counted_run (catalogue : Catalogue) (calls : List Call) :
    ((start catalogue).run calls).builder.Counted := by
  refine (honest_start catalogue).builder_invariant Builder.Counted Effect.counted ?_ calls
  intro operator
  rfl

/--
In every session the counter of an operator is the number of its nodes in the graph, which
are named in order for the operator and the numbers below the counter, and no two nodes of
the graph share a name.  A call that makes a node adds one to the counter of its operator;
nothing else changes a counter.
-/
theorem nodes_counted (catalogue : Catalogue) (calls : List Call) :
    let session := (start catalogue).run calls
    let builder := session.builder
    (∀ operator,
      builder.operatorCount operator =
        (builder.graph.nodes.filter fun node => node.opType == operator).length ∧
      (builder.graph.nodes.filter fun node => node.opType == operator).map (·.name) =
        (List.range (builder.operatorCount operator)).map fun index =>
          operator ++ "_" ++ Text.natural index) ∧
    (builder.graph.nodes.map (·.name)).Nodup ∧
    ∀ call operator,
      (session.perform call).builder.operatorCount operator =
        match session.made? call with
        | none => builder.operatorCount operator
        | some node =>
          if node.opType = operator then builder.operatorCount operator + 1
          else builder.operatorCount operator := by
  intro session builder
  have counted : builder.Counted := counted_run catalogue calls
  refine ⟨?names, counted.nodup_names, ?counters⟩
  case names =>
    intro operator
    exact ⟨(counted.length_eq operator).symm, counted operator⟩
  case counters =>
    intro call operator
    have honest : session.Honest := (honest_start catalogue).run calls
    exact (perform_effect honest call).operatorCount_eq operator

end Session

end OnnxForge.Build

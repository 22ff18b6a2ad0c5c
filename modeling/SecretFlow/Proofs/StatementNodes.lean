import SecretFlow.Proofs.GroundedGraphs
import SecretFlow.Proofs.StatementPlaces

set_option autoImplicit false
set_option relaxedAutoImplicit false

/-!
Nodes of statements. Whatever the label of a script is, the label and the place of a statement can
be read off the id of its node and off the id of its sink, and no id is of both forms. So in a
container every statement has nodes of its own.
-/

namespace SecretFlow

namespace Shell

private theorem text_ne_empty_of_mem_statements {script : String} {s : Statement}
    (hs : s ∈ statements script) : s.text ≠ "" := by
  obtain ⟨l, -, inside⟩ := List.mem_flatMap.mp hs
  obtain ⟨earlier, segment, -, -, command, rfl⟩ := LogicalLine.mem_statements.mp inside
  intro empty
  have none : commandOf segment = [] := by simpa [Statement.read] using congrArg String.toList empty
  exact command none

private theorem eq_of_place {script : String} {s t : Statement} (hs : s ∈ statements script)
    (ht : t ∈ statements script) (place : s.place = t.place) : s = t := by
  obtain ⟨before, after, split⟩ := List.append_of_mem hs
  obtain ⟨before', after', again⟩ := List.append_of_mem ht
  exact (before_eq_of_place split again place).2

end Shell

namespace Place

variable {p : Place} {ref other : ScriptRef} {s t : Shell.Statement}

def sinkId (p : Place) (script : ScriptRef) (s : Shell.Statement) : NodeId :=
  s!"{p.statementId script s}:sink"

private theorem statementId_eq_iff :
    p.statementId ref s = p.statementId other t ↔ ref.key = other.key ∧ s.place = t.place := by
  constructor
  · intro same
    have key := key_eq_of_statementId_eq same
    have relabelled : p.statementId other t = p.statementId ref t := by
      rw [statementId, statementId, key]
    exact ⟨key, place_eq_of_statementId_eq (same.trans relabelled)⟩
  · rintro ⟨key, place⟩
    obtain ⟨line, index⟩ := Prod.mk.inj place
    rw [statementId, statementId, key, line, index]

private theorem sinkId_eq_iff :
    p.sinkId ref s = p.sinkId other t ↔ ref.key = other.key ∧ s.place = t.place := by
  rw [← statementId_eq_iff (p := p)]
  constructor
  · intro same
    have texts := congrArg String.toList same
    simp only [sinkId, toString, String.toList_append] at texts
    exact String.toList_injective (List.append_cancel_right texts)
  · intro same
    rw [sinkId, sinkId, same]

/-- Walking a statement of a script makes the node for it, whatever it is found to mention. -/
def MakesNode (p : Place) (rules : List SinkRule) (ref : ScriptRef) (s : Shell.Statement)
    (n : Node) : Prop :=
  ∃ origin found, .node n ∈ consumerSteps rules (p.statementId ref s) origin s found

private theorem MakesNode.cases {rules : List SinkRule} {n : Node}
    (makes : p.MakesNode rules ref s n) : n.id = p.statementId ref s ∧ n.kind = .scriptStatement ∨
      n.id = p.sinkId ref s ∧ n.kind ≠ .scriptStatement := by
  obtain ⟨origin, found, step⟩ := makes
  unfold consumerSteps at step
  dsimp only at step
  rcases List.mem_append.mp step with own | sink
  · split at own
    · cases own
    · rcases List.mem_cons.mp own with same | link
      · obtain rfl := GraphStep.node.inj same
        exact .inl ⟨rfl, rfl⟩
      · obtain ⟨b, -, -, same⟩ := GraphStep.mem_linkAll.mp link
        cases same
  · split at sink
    · cases sink
    · rcases List.mem_cons.mp sink with same | edge
      · obtain rfl := GraphStep.node.inj same
        exact .inr ⟨rfl, by simp⟩
      · split at edge
        · cases edge
        · obtain ⟨-, same⟩ := GraphStep.mem_edgeBetween.mp edge
          cases same

private theorem MakesNode.same_statement {rules : List SinkRule} {n m : Node}
    (makes : p.MakesNode rules ref s n) (again : p.MakesNode rules other t m) (same : n.id = m.id) :
    ref.key = other.key ∧ s.place = t.place ∧
      (n.kind = .scriptStatement ↔ m.kind = .scriptStatement) := by
  rcases makes.cases with ⟨id, own⟩ | ⟨id, sink⟩ <;>
    rcases again.cases with ⟨id', own'⟩ | ⟨id', sink'⟩ <;>
    rw [id, id'] at same
  · obtain ⟨key, place⟩ := statementId_eq_iff.mp same
    exact ⟨key, place, by simp [own, own']⟩
  · exact absurd same (p.statementId_ne_sink ref other s t)
  · exact absurd same.symm (p.statementId_ne_sink other ref t s)
  · obtain ⟨key, place⟩ := sinkId_eq_iff.mp same
    exact ⟨key, place, by simp [sink, sink']⟩

private theorem nodup_ids (p : Place) (ref : ScriptRef) (script : String) :
    ((Shell.statements script).flatMap fun s => [p.statementId ref s, p.sinkId ref s]).Nodup := by
  have differ (s t : Shell.Statement) : p.statementId ref s ≠ p.sinkId ref t :=
    p.statementId_ne_sink ref ref s t
  refine List.nodup_flatMap.mpr ⟨?_, ?_⟩
  · intro s _
    simpa using differ s s
  · refine (Shell.statements_ordered script).imp ?_
    intro s t precedes
    have apart := precedes.place_ne
    have own : p.statementId ref t ≠ p.statementId ref s := fun same =>
      apart (statementId_eq_iff.mp same.symm).2
    have sinks : p.sinkId ref t ≠ p.sinkId ref s := fun same => apart (sinkId_eq_iff.mp same.symm).2
    simp [Function.onFun, own, sinks, differ t s, (differ s t).symm]

end Place

/-- The statements of a script stand in order, by line and on a line by index, and each has a text.
For every label of a script, their ids and those of their sinks are all different. If a node of a
graph is of two statements in one container, then their scripts have one label, they have one place,
and it is the statement's own node for both or the sink's for both. -/
theorem statement_nodes_apart (script : String) :
    (Shell.statements script).Pairwise Shell.Statement.Precedes ∧
    (∀ s ∈ Shell.statements script, s.text ≠ "") ∧
    (∀ (p : Place) (ref : ScriptRef),
      ((Shell.statements script).flatMap fun s => [p.statementId ref s, p.sinkId ref s]).Nodup) ∧
    (∀ s ∈ Shell.statements script, ∀ t ∈ Shell.statements script, s.place = t.place → s = t) ∧
    ∀ (p : Place) (rules : List SinkRule) (ref other : ScriptRef) (s t : Shell.Statement)
      (n m : Node), p.MakesNode rules ref s n → p.MakesNode rules other t m →
      ∀ (g : Graph) (k : Node), g.node? n.id = some k → g.node? m.id = some k →
        ref.key = other.key ∧ s.place = t.place ∧
          (n.kind = .scriptStatement ↔ m.kind = .scriptStatement) := by
  refine ⟨Shell.statements_ordered script, fun s hs => Shell.text_ne_empty_of_mem_statements hs,
    fun p ref => p.nodup_ids ref script, fun s hs t ht => Shell.eq_of_place hs ht, ?_⟩
  intro p rules ref other s t n m makes again g k found foundAgain
  have first : k.id = n.id := by simpa using List.find?_some found
  have second : k.id = m.id := by simpa using List.find?_some foundAgain
  exact makes.same_statement again (first.symm.trans second)

end SecretFlow

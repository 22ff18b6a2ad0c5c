import Mathlib.Data.List.Nodup
import SecretFlow.Flow.Step

set_option autoImplicit false
set_option relaxedAutoImplicit false

/-!
What holds of every graph that is built step by step: ids are unique, edges join nodes and stand
once, and nothing that was added is ever lost.
-/

namespace SecretFlow.Graph

/-- Ids belong to one node each, and both ends of every edge are nodes. -/
structure WellFormed (g : Graph) : Prop where
  unique : (g.nodes.map (·.id)).Nodup
  closed : ∀ e ∈ g.edges, g.contains e.source ∧ g.contains e.target

/-- Secrets flow from the first id to the second along one edge. -/
def Flows (g : Graph) (a b : NodeId) : Prop :=
  ∃ r : Relation, r.isFlow = true ∧ (⟨a, b, r⟩ : Edge) ∈ g.edges

structure Extends (g h : Graph) : Prop where
  nodes : g.nodes ⊆ h.nodes
  edges : g.edges ⊆ h.edges

@[simp] theorem contains_iff {g : Graph} {id : NodeId} :
    g.contains id = true ↔ ∃ n ∈ g.nodes, n.id = id := by
  simp [contains]

private theorem Extends.refl (g : Graph) : g.Extends g :=
  ⟨fun _ h => h, fun _ h => h⟩

private theorem Extends.trans {g h k : Graph} (first : g.Extends h) (second : h.Extends k) :
    g.Extends k :=
  ⟨fun _ hn => second.nodes (first.nodes hn), fun _ he => second.edges (first.edges he)⟩

theorem Extends.contains {g h : Graph} {id : NodeId} (ext : g.Extends h)
    (hid : g.contains id) : h.contains id := by
  obtain ⟨n, hn, rfl⟩ := contains_iff.mp hid
  exact contains_iff.mpr ⟨n, ext.nodes hn, rfl⟩

theorem Extends.flows {g h : Graph} {a b : NodeId} (ext : g.Extends h) (flow : g.Flows a b) :
    h.Flows a b := by
  obtain ⟨r, hr, he⟩ := flow
  exact ⟨r, hr, ext.edges he⟩

theorem addNode_nodes (g : Graph) (n : Node) :
    (g.addNode n).nodes = if g.contains n.id then g.nodes else g.nodes ++ [n] := by
  unfold addNode
  split <;> rfl

@[simp] theorem addNode_edges (g : Graph) (n : Node) : (g.addNode n).edges = g.edges := by
  unfold addNode
  split <;> rfl

@[simp] theorem addNode_diagnostics (g : Graph) (n : Node) :
    (g.addNode n).diagnostics = g.diagnostics := by
  unfold addNode
  split <;> rfl

theorem step_edge (g : Graph) (e : Edge) :
    g.step (.edge e) =
      if g.contains e.source ∧ g.contains e.target ∧ e ∉ g.edges
      then { g with edges := g.edges ++ [e] } else g := by
  unfold step addEdge hasEdge
  cases hs : g.contains e.source with
  | false => simp [hs]
  | true =>
    cases ht : g.contains e.target with
    | false => simp [hs, ht]
    | true => by_cases he : e ∈ g.edges <;> simp [hs, ht, he]

theorem extends_step (g : Graph) (s : GraphStep) : g.Extends (g.step s) := by
  cases s with
  | node n =>
    refine ⟨?_, by simp [step]⟩
    intro a ha
    simp only [step, addNode_nodes]
    split
    · exact ha
    · exact List.mem_append_left _ ha
  | edge e =>
    rw [step_edge]
    split
    · exact ⟨fun _ h => h, fun _ h => List.mem_append_left _ h⟩
    · exact .refl g
  | note d => exact ⟨fun _ h => h, fun _ h => h⟩

@[simp] theorem run_nil (g : Graph) : g.run [] = g := rfl

@[simp] theorem run_cons (g : Graph) (s : GraphStep) (steps : List GraphStep) :
    g.run (s :: steps) = (g.step s).run steps := rfl

theorem run_append (g : Graph) (a b : List GraphStep) : g.run (a ++ b) = (g.run a).run b :=
  List.foldl_append

@[simp] theorem run_unit (g : Graph) (steps : List GraphStep) : (g.run steps).unit = g.unit := by
  induction steps generalizing g with
  | nil => rfl
  | cons s steps ih =>
    rw [run_cons, ih]
    cases s with
    | node n =>
      simp only [step, addNode]
      split <;> rfl
    | edge e =>
      rw [step_edge]
      split <;> rfl
    | note d => rfl

theorem extends_run (g : Graph) (steps : List GraphStep) : g.Extends (g.run steps) := by
  induction steps generalizing g with
  | nil => exact .refl g
  | cons s steps ih => exact (extends_step g s).trans (ih (g.step s))

theorem mem_run_nodes {g : Graph} {steps : List GraphStep} {n : Node}
    (hn : n ∈ (g.run steps).nodes) : n ∈ g.nodes ∨ .node n ∈ steps := by
  induction steps generalizing g with
  | nil => exact .inl hn
  | cons s steps ih =>
    rcases ih hn with hn | later
    · cases s with
      | node a =>
        simp only [step, addNode_nodes] at hn
        split at hn
        · exact .inl hn
        · rcases List.mem_append.mp hn with old | new
          · exact .inl old
          · rw [List.mem_singleton.mp new]
            exact .inr List.mem_cons_self
      | edge e =>
        rw [step_edge] at hn
        split at hn <;> exact .inl hn
      | note d => exact .inl hn
    · exact .inr (List.mem_cons_of_mem _ later)

theorem mem_run_edges {g : Graph} {steps : List GraphStep} {e : Edge}
    (he : e ∈ (g.run steps).edges) : e ∈ g.edges ∨ .edge e ∈ steps := by
  induction steps generalizing g with
  | nil => exact .inl he
  | cons s steps ih =>
    rcases ih he with he | later
    · cases s with
      | node a => exact .inl (by simpa [step] using he)
      | edge d =>
        rw [step_edge] at he
        split at he
        · rcases List.mem_append.mp he with old | new
          · exact .inl old
          · rw [List.mem_singleton.mp new]
            exact .inr List.mem_cons_self
        · exact .inl he
      | note d => exact .inl he
    · exact .inr (List.mem_cons_of_mem _ later)

private theorem run_diagnostics (g : Graph) (steps : List GraphStep) :
    (g.run steps).diagnostics = g.diagnostics ++ steps.filterMap fun
      | .note d => some d
      | _ => none := by
  induction steps generalizing g with
  | nil => simp
  | cons s steps ih =>
    rw [run_cons, ih]
    cases s with
    | node n => simp [step]
    | edge e =>
      rw [step_edge]
      split <;> simp
    | note d => simp [step, addDiagnostic]

theorem mem_run_diagnostics {steps : List GraphStep} {d : Diagnostic} (hd : .note d ∈ steps)
    (g : Graph) : d ∈ (g.run steps).diagnostics := by
  rw [run_diagnostics]
  exact List.mem_append_right _ (List.mem_filterMap.mpr ⟨.note d, hd, rfl⟩)

theorem contains_step_node (g : Graph) (n : Node) : (g.step (.node n)).contains n.id := by
  rw [contains_iff]
  simp only [step, addNode_nodes]
  split
  · rename_i known
    exact contains_iff.mp known
  · exact ⟨n, by simp, rfl⟩

theorem contains_run {g : Graph} {steps : List GraphStep} {n : Node} (hn : .node n ∈ steps) :
    (g.run steps).contains n.id := by
  obtain ⟨before, after, rfl⟩ := List.append_of_mem hn
  rw [run_append, run_cons]
  exact (extends_run _ after).contains (contains_step_node _ n)

theorem edge_mem_run {g : Graph} {steps : List GraphStep} {e : Edge} (he : .edge e ∈ steps)
    (source : g.contains e.source) (target : g.contains e.target) : e ∈ (g.run steps).edges := by
  obtain ⟨before, after, rfl⟩ := List.append_of_mem he
  rw [run_append, run_cons]
  have ext := extends_run g before
  refine (extends_run _ after).edges ?_
  rw [step_edge]
  split
  · simp
  · rename_i refused
    by_contra absent
    exact refused ⟨ext.contains source, ext.contains target, absent⟩

theorem wellFormed_empty (unit : String) : ({ unit := unit } : Graph).WellFormed :=
  ⟨List.nodup_nil, by simp⟩

private theorem wellFormed_step {g : Graph} (wf : g.WellFormed) (s : GraphStep) :
    (g.step s).WellFormed := by
  have ext := extends_step g s
  cases s with
  | node n =>
    refine ⟨?_, ?_⟩
    · simp only [step, addNode_nodes]
      split
      · exact wf.unique
      · rename_i fresh
        rw [List.map_append, List.map_singleton]
        refine wf.unique.append (List.nodup_singleton _) ?_
        intro id hid hn
        rw [List.mem_singleton] at hn
        subst hn
        exact fresh (by simpa using hid)
    · intro e he
      have he : e ∈ g.edges := by simpa [step] using he
      exact ⟨ext.contains (wf.closed e he).1, ext.contains (wf.closed e he).2⟩
  | edge e =>
    rw [step_edge]
    split
    · rename_i ends
      refine ⟨wf.unique, ?_⟩
      intro d hd
      rcases List.mem_append.mp hd with hd | hd
      · exact wf.closed d hd
      · rw [List.mem_singleton] at hd
        subst hd
        exact ⟨ends.1, ends.2.1⟩
    · exact wf
  | note d => exact ⟨wf.unique, wf.closed⟩

theorem wellFormed_run {g : Graph} (wf : g.WellFormed) (steps : List GraphStep) :
    (g.run steps).WellFormed := by
  induction steps generalizing g with
  | nil => exact wf
  | cons s steps ih => exact ih (wellFormed_step wf s)

/-- A well-formed graph in which no edge stands twice: what every graph is that can be built. -/
structure Built (g : Graph) : Prop extends g.WellFormed where
  once : g.edges.Nodup

private theorem nodup_edges_step {g : Graph} (once : g.edges.Nodup) (s : GraphStep) :
    (g.step s).edges.Nodup := by
  cases s with
  | node n => simpa [step] using once
  | edge e =>
    rw [step_edge]
    split
    · rename_i new
      refine once.append (List.nodup_singleton e) ?_
      intro d hd same
      rw [List.mem_singleton] at same
      exact new.2.2 (same ▸ hd)
    · exact once
  | note d => exact once

theorem built_run (unit : String) (steps : List GraphStep) :
    (({ unit := unit } : Graph).run steps).Built where
  toWellFormed := wellFormed_run (wellFormed_empty unit) steps
  once := List.foldlRecOn (motive := fun g : Graph => g.edges.Nodup) steps step List.nodup_nil
    fun _ once s _ => nodup_edges_step once s

theorem WellFormed.eq_of_id {g : Graph} (wf : g.WellFormed) {a b : Node} (ha : a ∈ g.nodes)
    (hb : b ∈ g.nodes) (same : a.id = b.id) : a = b :=
  List.inj_on_of_nodup_map wf.unique ha hb same

theorem WellFormed.node?_eq_some {g : Graph} (wf : g.WellFormed) {id : NodeId} {n : Node} :
    g.node? id = some n ↔ n ∈ g.nodes ∧ n.id = id := by
  constructor
  · intro found
    exact ⟨List.mem_of_find?_eq_some found, by simpa using List.find?_some found⟩
  · rintro ⟨hn, rfl⟩
    cases found : g.node? n.id with
    | none =>
      have absent := List.find?_eq_none.mp found n hn
      simp at absent
    | some a =>
      have ha : a ∈ g.nodes := List.mem_of_find?_eq_some found
      have same : a.id = n.id := by simpa using List.find?_some found
      rw [wf.eq_of_id ha hn same]

theorem WellFormed.mem_successors {g : Graph} (wf : g.WellFormed) {id : NodeId} {r : Relation}
    {n : Node} : (r, n) ∈ g.successors id ↔
      r.isFlow = true ∧ (⟨id, n.id, r⟩ : Edge) ∈ g.edges ∧ n ∈ g.nodes := by
  simp only [successors, List.mem_mergeSort, List.mem_filterMap, List.mem_filter,
    Option.map_eq_some_iff, wf.node?_eq_some, Prod.mk.injEq, Bool.and_eq_true, decide_eq_true_eq]
  constructor
  · rintro ⟨⟨source, target, relation⟩, ⟨he, rfl, flow⟩, m, ⟨hm, rfl⟩, rfl, rfl⟩
    exact ⟨flow, he, hm⟩
  · rintro ⟨flow, he, hn⟩
    exact ⟨⟨id, n.id, r⟩, ⟨he, rfl, flow⟩, n, ⟨hn, rfl⟩, rfl, rfl⟩

end SecretFlow.Graph

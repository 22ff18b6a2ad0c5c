import Mathlib.Logic.Relation
import SecretFlow.Leak.Mining
import SecretFlow.Proofs.GraphStore

set_option autoImplicit false
set_option relaxedAutoImplicit false

/-!
The backward walk from sinks and dead ends: it stops only when nothing is left to find, so the live
nodes are exactly those from which secrets flow to a terminal node.
-/

namespace SecretFlow.Graph

private theorem mem_flowSources {g : Graph} {into without : List NodeId} {id : NodeId} :
    id ∈ g.flowSources into without ↔ id ∉ without ∧ ∃ b ∈ into, g.Flows id b := by
  simp only [flowSources, List.mem_eraseDups, List.mem_map, List.mem_filter, Bool.and_eq_true,
    List.contains_iff_mem, Bool.not_eq_true', ← Bool.not_eq_true]
  constructor
  · rintro ⟨e, ⟨he, ⟨flow, target⟩, fresh⟩, rfl⟩
    exact ⟨fresh, e.target, target, e.relation, flow, he⟩
  · rintro ⟨fresh, b, hb, r, flow, he⟩
    exact ⟨⟨id, b, r⟩, ⟨he, ⟨flow, hb⟩, fresh⟩, rfl⟩

private def unseen (g : Graph) (seen : List NodeId) : List Node :=
  g.nodes.filter fun n => !seen.contains n.id

private theorem length_unseen_lt {g : Graph} {seen next : List NodeId} {n : Node}
    (hn : n ∈ g.nodes) (fresh : n.id ∉ seen) (found : n.id ∈ next) :
    (g.unseen (seen ++ next)).length < (g.unseen seen).length := by
  have split : g.unseen (seen ++ next) = (g.unseen seen).filter fun a => !next.contains a.id := by
    simp [unseen, List.filter_filter, Bool.and_comm]
  rw [split, List.length_filter_lt_length_iff_exists]
  exact ⟨n, by simp [unseen, hn, fresh], by simp [found]⟩

/-- A walk with a round left for each node that it has not come to ends with a set of ids that no
flow edge leads into from outside. -/
private theorem backwards_closed {g : Graph} (wf : g.WellFormed) (rounds : Nat)
    (seen frontier : List NodeId) (room : (g.unseen seen).length ≤ rounds)
    (settled : ∀ a b, g.Flows a b → b ∈ seen → b ∉ frontier → a ∈ seen) :
    seen ⊆ g.backwards rounds seen frontier ∧
      ∀ a b, g.Flows a b → b ∈ g.backwards rounds seen frontier →
        a ∈ g.backwards rounds seen frontier := by
  induction rounds generalizing seen frontier with
  | zero =>
    refine ⟨fun _ h => h, ?_⟩
    intro a b flow _
    obtain ⟨r, _, he⟩ := flow
    obtain ⟨n, hn, rfl⟩ := contains_iff.mp (wf.closed _ he).1
    have none : g.unseen seen = [] := List.length_eq_zero_iff.mp (Nat.le_zero.mp room)
    have covered := List.filter_eq_nil_iff.mp none n hn
    simpa [backwards] using covered
  | succ rounds ih =>
    simp only [backwards]
    split
    · rename_i stop
      refine ⟨fun _ h => h, ?_⟩
      intro a b flow hb
      by_cases front : b ∈ frontier
      · by_contra fresh
        have found := mem_flowSources.mpr ⟨fresh, b, front, flow⟩
        rw [List.isEmpty_iff.mp stop] at found
        exact List.not_mem_nil found
      · exact settled a b flow hb front
    · rename_i more
      -- the round has found a node, so one node less is left to be found
      obtain ⟨a, ha⟩ := List.exists_mem_of_ne_nil _ (by simpa using more)
      obtain ⟨fresh, b, _, r, _, he⟩ := mem_flowSources.mp ha
      obtain ⟨n, hn, same⟩ := contains_iff.mp (wf.closed _ he).1
      have fewer : (g.unseen (seen ++ g.flowSources frontier seen)).length <
          (g.unseen seen).length :=
        length_unseen_lt hn (by simpa [same] using fresh) (by simpa [same] using ha)
      have next := ih (seen ++ g.flowSources frontier seen) (g.flowSources frontier seen)
        (by omega) ?_
      · exact ⟨fun _ h => next.1 (List.mem_append_left _ h), next.2⟩
      · intro c d flow hd old
        have hd : d ∈ seen := by simpa [old] using hd
        by_cases front : d ∈ frontier
        · by_cases hc : c ∈ seen
          · exact List.mem_append_left _ hc
          · exact List.mem_append_right _ (mem_flowSources.mpr ⟨hc, d, front, flow⟩)
        · exact List.mem_append_left _ (settled c d flow hd front)

private theorem reachingTerminals_closed {g : Graph} (wf : g.WellFormed) :
    (g.nodes.filter (·.kind.isTerminal)).map (·.id) ⊆ g.reachingTerminals ∧
      ∀ a b, g.Flows a b → b ∈ g.reachingTerminals → a ∈ g.reachingTerminals :=
  backwards_closed wf _ _ _ (List.length_filter_le _ _) fun _ _ _ hb front => absurd hb front

theorem terminal_mem_reachingTerminals {g : Graph} (wf : g.WellFormed) {n : Node}
    (hn : n ∈ g.nodes) (terminal : n.kind.isTerminal = true) : n.id ∈ g.reachingTerminals :=
  (reachingTerminals_closed wf).1 (List.mem_map_of_mem (List.mem_filter.mpr ⟨hn, terminal⟩))

theorem flows_mem_reachingTerminals {g : Graph} (wf : g.WellFormed) {a b : NodeId}
    (flow : g.Flows a b) (hb : b ∈ g.reachingTerminals) : a ∈ g.reachingTerminals :=
  (reachingTerminals_closed wf).2 a b flow hb

/-- Secrets that come to an id can flow on to a terminal node. -/
def Leads (g : Graph) (id : NodeId) : Prop :=
  ∃ t ∈ g.nodes, t.kind.isTerminal = true ∧ Relation.ReflTransGen g.Flows id t.id

theorem Leads.of_flows {g : Graph} {a b : NodeId} (flow : g.Flows a b) (leads : g.Leads b) :
    g.Leads a := by
  obtain ⟨t, ht, terminal, path⟩ := leads
  exact ⟨t, ht, terminal, path.head flow⟩

private theorem leads_of_mem_backwards {g : Graph} {rounds : Nat} {seen frontier : List NodeId}
    (hseen : ∀ id ∈ seen, g.Leads id) (hfrontier : ∀ id ∈ frontier, g.Leads id) :
    ∀ id ∈ g.backwards rounds seen frontier, g.Leads id := by
  induction rounds generalizing seen frontier with
  | zero => exact hseen
  | succ rounds ih =>
    simp only [backwards]
    split
    · exact hseen
    · have next : ∀ id ∈ g.flowSources frontier seen, g.Leads id := by
        intro id hid
        obtain ⟨_, b, hb, flow⟩ := mem_flowSources.mp hid
        exact .of_flows flow (hfrontier b hb)
      refine ih ?_ next
      intro id hid
      rcases List.mem_append.mp hid with old | new
      · exact hseen id old
      · exact next id new

/-- An id is live exactly if it leads to a terminal node. -/
theorem mem_reachingTerminals {g : Graph} (wf : g.WellFormed) {id : NodeId} :
    id ∈ g.reachingTerminals ↔ g.Leads id := by
  constructor
  · have terminals : ∀ id ∈ (g.nodes.filter (·.kind.isTerminal)).map (·.id), g.Leads id := by
      intro id hid
      obtain ⟨t, ht, rfl⟩ := List.mem_map.mp hid
      obtain ⟨hnode, terminal⟩ := List.mem_filter.mp ht
      exact ⟨t, hnode, terminal, .refl⟩
    exact leads_of_mem_backwards terminals terminals id
  · rintro ⟨t, ht, terminal, path⟩
    induction path using Relation.ReflTransGen.head_induction_on with
    | refl => exact terminal_mem_reachingTerminals wf ht terminal
    | head flow _ ih => exact flows_mem_reachingTerminals wf flow ih

theorem live_successors_eq {g : Graph} {id : NodeId} (hid : g.contains id) :
    g.live.successors id = g.liveSuccessors g.reachingTerminals id := by
  obtain ⟨a, ha, rfl⟩ := contains_iff.mp hid
  simp only [LiveGraph.successors, live, List.find?_map, Function.comp_def]
  cases found : g.nodes.find? (fun m => decide (m.id = a.id)) with
  | none =>
    have absent := List.find?_eq_none.mp found a ha
    simp at absent
  | some m =>
    have same : m.id = a.id := by simpa using List.find?_some found
    simp [same]

theorem live_successors_eq_nil {g : Graph} {id : NodeId} (absent : ¬ g.contains id) :
    g.live.successors id = [] := by
  simp only [LiveGraph.successors, live, List.find?_map, Function.comp_def]
  cases found : g.nodes.find? (fun m => decide (m.id = id)) with
  | none => rfl
  | some m =>
    have same : m.id = id := by simpa using List.find?_some found
    exact absurd (contains_iff.mpr ⟨m, List.mem_of_find?_eq_some found, same⟩) absent

theorem mem_live_successors {g : Graph} (wf : g.WellFormed) {id : NodeId} {n : Node}
    (hid : g.contains id) : n ∈ g.live.successors id ↔
      n ∈ g.nodes ∧ g.Flows id n.id ∧ n.id ∈ g.reachingTerminals := by
  rw [live_successors_eq hid]
  simp only [liveSuccessors, List.mem_filter, List.mem_map, Prod.exists, exists_eq_right,
    wf.mem_successors, List.contains_iff_mem, Flows]
  constructor
  · rintro ⟨⟨r, flow, he, hn⟩, alive⟩
    exact ⟨hn, ⟨r, flow, he⟩, alive⟩
  · rintro ⟨hn, ⟨r, flow, he⟩, alive⟩
    exact ⟨⟨r, flow, he, hn⟩, alive⟩

theorem mem_live_sources {g : Graph} {n : Node} : n ∈ g.live.sources ↔
    n ∈ g.nodes ∧ n.kind = .secretDeclaration ∧ n.id ∈ g.reachingTerminals := by
  simp [live, sources, and_assoc]

end SecretFlow.Graph

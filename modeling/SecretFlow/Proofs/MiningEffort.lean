import Mathlib.Algebra.GroupWithZero.Nat
import Mathlib.Algebra.Order.BigOperators.Group.List
import Mathlib.Algebra.Order.Group.Nat
import Mathlib.Data.List.Perm.Basic
import SecretFlow.Proofs.HonestLimits

set_option autoImplicit false
set_option relaxedAutoImplicit false

/-!
How much mining explores. A visit takes no more edges than there are walks from its node, and every
finding was paid for by an edge, so a graph with fewer walks than the limits allow is mined as a
whole.
-/

namespace SecretFlow

private theorem sum_map_le_of_subperm {α : Type} (f : α → Nat) {few many : List α}
    (fewer : few.Subperm many) : (few.map f).sum ≤ (many.map f).sum := by
  obtain ⟨between, perm, sub⟩ := fewer
  rw [← (perm.map f).sum_nat]
  exact (sub.map f).sum_le_sum fun _ _ => Nat.zero_le _

namespace Graph

/-- The number of walks along the flow from a node, of one edge up to so many. -/
def walks (g : Graph) : Nat → NodeId → Nat
  | 0, _ => 0
  | room + 1, id =>
      ((g.edges.filter fun e => e.source = id && e.relation.isFlow).map fun e =>
        1 + g.walks room e.target).sum

def effort (g : Graph) (limits : MiningLimits) : Nat :=
  (limits.passes.map fun edges =>
    ((g.nodes.filter (·.kind = .secretDeclaration)).map fun n => g.walks edges n.id).sum).sum

private theorem targets_successors (g : Graph) (id : NodeId) :
    ((g.successors id).map fun step => step.2.id).Subperm
      ((g.edges.filter fun e => e.source = id && e.relation.isFlow).map (·.target)) := by
  refine ((List.mergeSort_perm _ _).map _).subperm.trans ?_
  rw [List.map_filterMap]
  generalize g.edges.filter (fun e => e.source = id && e.relation.isFlow) = out
  induction out with
  | nil => exact List.nil_subperm
  | cons e out ih =>
    rw [List.filterMap_cons]
    cases found : g.node? e.target with
    | none => exact ih.trans (List.sublist_cons_self _ _).subperm
    | some n =>
      have same : n.id = e.target := by simpa using List.find?_some found
      simpa only [Option.map_some, List.map_cons, same] using (List.subperm_cons e.target).mpr ih

private theorem targets_live_successors (g : Graph) (id : NodeId) :
    ((g.live.successors id).map (·.id)).Subperm
      ((g.edges.filter fun e => e.source = id && e.relation.isFlow).map (·.target)) := by
  by_cases hid : g.contains id
  · rw [live_successors_eq hid, liveSuccessors]
    refine (List.filter_sublist.map _).subperm.trans ?_
    rw [List.map_map]
    exact targets_successors g id
  · rw [live_successors_eq_nil hid]
    exact List.nil_subperm

private theorem sum_live_successors_le (g : Graph) (room : Nat) (id : NodeId) :
    ((g.live.successors id).map fun n => 1 + g.walks room n.id).sum ≤ g.walks (room + 1) id := by
  have fewer := sum_map_le_of_subperm (fun target => 1 + g.walks room target)
    (targets_live_successors g id)
  simpa only [walks, List.map_map, Function.comp_def] using fewer

end Graph

/-- Every finding was paid for by an explored edge. -/
def Mining.Paid (m : Mining) : Prop :=
  m.findings.size ≤ m.explored

namespace LiveGraph

private theorem foldl_explored_le {α : Type} {f : Mining → α → Mining} (cost : α → Nat)
    (step : ∀ m a, (f m a).explored ≤ m.explored + cost a) (items : List α) (m : Mining) :
    (items.foldl f m).explored ≤ m.explored + (items.map cost).sum := by
  induction items generalizing m with
  | nil => exact Nat.le_refl _
  | cons a items ih =>
    have first := step m a
    have rest := ih (f m a)
    rw [List.foldl_cons, List.map_cons, List.sum_cons]
    omega

private theorem emit_explored (g : LiveGraph) (limits : MiningLimits) (node : Node)
    (path : List Node) (m : Mining) :
    (g.emit limits (node :: path) m).explored = m.explored := by
  rcases emit_cases g limits node path m with ⟨_, eq⟩ | ⟨_, ⟨_, eq⟩ | ⟨_, _, eq⟩⟩ <;> rw [eq]

private theorem emit_findings_le (g : LiveGraph) (limits : MiningLimits) (node : Node)
    (path : List Node) (m : Mining) :
    (g.emit limits (node :: path) m).findings.size ≤ m.findings.size + 1 := by
  rcases emit_cases g limits node path m with ⟨_, eq⟩ | ⟨_, ⟨_, eq⟩ | ⟨_, _, eq⟩⟩
  · rw [eq]
    exact Nat.le_succ _
  · rw [eq]
    exact Nat.le_succ _
  · rw [eq, Array.size_push]

private theorem visit_explored_le (g : Graph) (limits : MiningLimits) (room : Nat)
    (path : List Node) (m : Mining) (node : Node) :
    (g.live.visit limits room path m node).explored ≤ m.explored + g.walks room node.id := by
  induction room using Nat.strongRecOn generalizing path m node with
  | ind room ih =>
    rcases visit_cases g.live limits room path m node with
      same | ⟨_, _, ⟨_, _, stop⟩ | ⟨_, less, rfl, goes⟩⟩
    · rw [same]
      exact Nat.le_add_right _ _
    · rw [stop, emit_explored]
      exact Nat.le_add_right _ _
    · rw [goes]
      refine (foldl_explored_le (fun n => 1 + g.walks less n.id) ?_ _ m).trans
        (Nat.add_le_add_left (g.sum_live_successors_le less node.id) _)
      intro m next
      unfold follow
      split
      · exact Nat.le_add_right _ _
      · have inner := ih less (Nat.lt_succ_self less) (node :: path)
          { m with explored := m.explored + 1 } next
        dsimp only at inner
        omega

-- The edge to the node where a path ends pays for the finding, so inside a path one edge more than
-- there are findings has been explored.
private theorem visit_paid (g : LiveGraph) (limits : MiningLimits) (room : Nat) (path : List Node)
    (m : Mining) (node : Node)
    (paid : m.findings.size + (if path = [] then 0 else 1) ≤ m.explored) :
    (g.visit limits room path m node).Paid := by
  have before : m.Paid := Nat.le_of_add_right_le paid
  induction room using Nat.strongRecOn generalizing path m node with
  | ind room ih =>
    rcases visit_cases g limits room path m node with
      same | ⟨_, _, ⟨inside, _, stop⟩ | ⟨_, less, rfl, goes⟩⟩
    · rwa [same]
    · have more := emit_findings_le g limits node path m
      rw [if_neg inside] at paid
      rw [stop, Mining.Paid, emit_explored]
      omega
    · rw [goes]
      refine List.foldlRecOn (motive := Mining.Paid) _ _ before ?_
      intro m before next _
      unfold follow
      split
      · exact before
      · refine ih less (Nat.lt_succ_self less) _ _ _ ?_ (Nat.le_succ_of_le before)
        rw [if_neg (List.cons_ne_nil node path)]
        exact Nat.succ_le_succ before

private theorem pass_explored_le (g : Graph) (limits : MiningLimits) (m : Mining) (edges : Nat) :
    (g.live.pass limits m edges).explored ≤ m.explored +
      ((g.nodes.filter (·.kind = .secretDeclaration)).map fun n => g.walks edges n.id).sum := by
  have fewer : g.live.sources.Subperm (g.nodes.filter (·.kind = .secretDeclaration)) :=
    List.filter_sublist.subperm.trans (List.mergeSort_perm _ _).subperm
  refine (foldl_explored_le (fun n => g.walks edges n.id) ?_ _ m).trans
    (Nat.add_le_add_left (sum_map_le_of_subperm _ fewer) _)
  intro m node
  exact visit_explored_le g limits edges [] m node

private theorem pass_paid (g : LiveGraph) (limits : MiningLimits) {m : Mining} (edges : Nat)
    (paid : m.Paid) : (g.pass limits m edges).Paid :=
  List.foldlRecOn (motive := Mining.Paid) _ _ paid fun m before node _ =>
    visit_paid g limits edges [] m node before

end LiveGraph

namespace Graph

/-- Mining that needs less effort than each limit allows is stopped by none. -/
theorem truncated_mine_of_effort {g : Graph} (wf : g.WellFormed) {limits : MiningLimits}
    (few : g.effort limits < limits.findings) (short : g.effort limits < limits.exploredEdges) :
    (g.mine limits).truncated = none := by
  have honest := honest_mine wf limits
  have explored := LiveGraph.foldl_explored_le _ (LiveGraph.pass_explored_le g limits)
    limits.passes {}
  have paid : (limits.passes.foldl (g.live.pass limits) {}).Paid :=
    List.foldlRecOn (motive := Mining.Paid) _ _ (Nat.le_refl 0) fun _ before edges _ =>
      LiveGraph.pass_paid g.live limits edges before
  unfold Mining.Paid at paid
  rw [Nat.zero_add] at explored
  change _ ≤ g.effort limits at explored
  cases hit : (g.mine limits).truncated with
  | none => rfl
  | some limit =>
    cases limit with
    | findings =>
      have all := (honest.full hit).1
      omega
    | work =>
      have worn := honest.worn hit
      omega

end Graph

end SecretFlow

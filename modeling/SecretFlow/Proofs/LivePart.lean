import Mathlib.Data.List.Perm.Basic
import SecretFlow.Proofs.Liveness
import SecretFlow.Proofs.MiningSteps

set_option autoImplicit false
set_option relaxedAutoImplicit false

/-!
Mining depends on the live part of a graph only: on the nodes that lead to a terminal node and the
flow edges between them. Where a walk can turn is ordered by relation and id, so neither the order
in which a graph was built nor what leads nowhere changes what is found or what it costs.
-/

namespace SecretFlow

theorem Relation.eq_of_rank {a b : Relation} (same : a.rank = b.rank) : a = b := by
  cases a <;> cases b <;> first | rfl | cases same

namespace Graph

/-! ### The order of exploration -/

private theorem stepLe_iff {a b : Relation × Node} :
    stepLe a b = true ↔ a.1.rank < b.1.rank ∨ a.1 = b.1 ∧ a.2.id ≤ b.2.id := by
  unfold stepLe
  split
  · rename_i same
    simp [same]
  · rename_i other
    have ranks : a.1.rank ≠ b.1.rank := fun same => other (Relation.eq_of_rank same)
    simp only [decide_eq_true_eq, other, false_and, or_false]
    omega

private theorem stepLe_trans (a b c : Relation × Node) (hab : stepLe a b = true)
    (hbc : stepLe b c = true) : stepLe a c = true := by
  rw [stepLe_iff] at hab hbc ⊢
  rcases hab with hab | ⟨hab, ids⟩
  · left
    rcases hbc with hbc | ⟨hbc, _⟩
    · exact Nat.lt_trans hab hbc
    · rwa [← hbc]
  · rw [hab]
    rcases hbc with hbc | ⟨hbc, more⟩
    · exact .inl hbc
    · exact .inr ⟨hbc, String.le_trans ids more⟩

private theorem stepLe_total (a b : Relation × Node) : (stepLe a b || stepLe b a) = true := by
  rw [Bool.or_eq_true, stepLe_iff, stepLe_iff]
  rcases Nat.lt_trichotomy a.1.rank b.1.rank with less | same | more
  · exact .inl (.inl less)
  · have relations := Relation.eq_of_rank same
    rcases String.le_total a.2.id b.2.id with ids | ids
    · exact .inl (.inr ⟨relations, ids⟩)
    · exact .inr (.inr ⟨relations.symm, ids⟩)
  · exact .inr (.inl more)

private theorem stepLe_antisymm {a b : Relation × Node} (hab : stepLe a b = true)
    (hba : stepLe b a = true) : a.1 = b.1 ∧ a.2.id = b.2.id := by
  rw [stepLe_iff] at hab hba
  rcases hab with hab | ⟨same, ids⟩
  · rcases hba with hba | ⟨same, _⟩
    · omega
    · rw [same] at hab
      omega
  · rcases hba with hba | ⟨_, more⟩
    · rw [same] at hba
      omega
    · exact ⟨same, String.le_antisymm ids more⟩

private theorem pairwise_successors (g : Graph) (id : NodeId) :
    (g.successors id).Pairwise fun a b => stepLe a b = true :=
  List.pairwise_mergeSort stepLe_trans stepLe_total _

private theorem Built.nodup_successors {g : Graph} (built : g.Built) (id : NodeId) :
    (g.successors id).Nodup := by
  unfold successors
  rw [List.nodup_mergeSort, List.filterMap_filter]
  refine built.once.filterMap ?_
  rintro ⟨source, target, relation⟩ ⟨source', target', relation'⟩ ⟨r, n⟩ he he'
  simp only [Option.mem_def, Option.ite_none_right_eq_some, Option.map_eq_some_iff,
    Bool.and_eq_true, decide_eq_true_eq, Prod.mk.injEq, built.node?_eq_some] at he he'
  obtain ⟨⟨rfl, _⟩, m, ⟨_, rfl⟩, rfl, rfl⟩ := he
  obtain ⟨⟨rfl, _⟩, m', ⟨_, rfl⟩, rfl, rfl⟩ := he'
  rfl

theorem liveSuccessors_congr {g h : Graph} (hg : g.Built) (hh : h.Built) {live live' : List NodeId}
    {id : NodeId} (same : ∀ r n, (r, n) ∈ g.successors id ∧ n.id ∈ live ↔
      (r, n) ∈ h.successors id ∧ n.id ∈ live') :
    g.liveSuccessors live id = h.liveSuccessors live' id := by
  unfold liveSuccessors
  rw [List.filter_map, List.filter_map]
  congr 1
  have perm : ((g.successors id).filter fun s => live.contains s.2.id).Perm
      ((h.successors id).filter fun s => live'.contains s.2.id) := by
    rw [List.perm_ext_iff_of_nodup ((hg.nodup_successors id).filter _)
      ((hh.nodup_successors id).filter _)]
    rintro ⟨r, n⟩
    simpa only [List.mem_filter, List.contains_iff_mem] using same r n
  refine List.Perm.eq_of_pairwise ?_ ((g.pairwise_successors id).filter _)
    ((h.pairwise_successors id).filter _) perm
  rintro ⟨r, a⟩ ⟨s, b⟩ ha hb hab hba
  obtain ⟨rfl, ids⟩ := stepLe_antisymm hab hba
  have hb := perm.mem_iff.mpr hb
  have left := hg.mem_successors.mp (List.mem_filter.mp ha).1
  have right := hg.mem_successors.mp (List.mem_filter.mp hb).1
  rw [hg.eq_of_id left.2.2 right.2.2 ids]

def idLe (a b : Node) : Bool :=
  a.id ≤ b.id

theorem pairwise_live_sources (g : Graph) :
    g.live.sources.Pairwise fun a b => idLe a b = true := by
  refine List.Pairwise.filter _ (List.pairwise_mergeSort ?_ ?_ _)
  · intro a b c hab hbc
    exact decide_eq_true (String.le_trans (of_decide_eq_true hab) (of_decide_eq_true hbc))
  · intro a b
    rw [Bool.or_eq_true]
    exact (String.le_total a.id b.id).imp decide_eq_true decide_eq_true

theorem WellFormed.nodup_live_sources {g : Graph} (wf : g.WellFormed) : g.live.sources.Nodup := by
  refine List.Nodup.filter _ ?_
  unfold sources
  rw [List.nodup_mergeSort]
  exact (List.Nodup.of_map _ wf.unique).filter _

theorem WellFormed.eq_of_idLe {g : Graph} (wf : g.WellFormed) {a b : List Node}
    (inGraph : ∀ n ∈ a, n ∈ g.nodes) (ha : a.Nodup) (hb : b.Nodup)
    (sorted : a.Pairwise fun m n => idLe m n = true)
    (sorted' : b.Pairwise fun m n => idLe m n = true) (same : ∀ n, n ∈ a ↔ n ∈ b) : a = b := by
  refine List.Perm.eq_of_pairwise ?_ sorted sorted' ((List.perm_ext_iff_of_nodup ha hb).mpr same)
  intro m n hm hn hmn hnm
  have ids : m.id = n.id := String.le_antisymm (of_decide_eq_true hmn) (of_decide_eq_true hnm)
  exact wf.eq_of_id (inGraph m hm) (inGraph n ((same n).mpr hn)) ids

end Graph

/-! ### Two graphs that agree where a walk goes -/

namespace LiveGraph

/-- A walk is the same in two graphs if they agree on a set of ids that it does not leave. -/
theorem visit_congr {g h : LiveGraph} {limits : MiningLimits} {S : NodeId → Prop}
    (unit : g.unit = h.unit) (agree : ∀ id, S id → g.successors id = h.successors id)
    (closed : ∀ id, S id → ∀ a ∈ g.successors id, S a.id) (room : Nat)
    (path : List Node) (m : Mining) (node : Node) (here : S node.id) :
    g.visit limits room path m node = h.visit limits room path m node := by
  have emits (path : List Node) (m : Mining) : g.emit limits path m = h.emit limits path m := by
    unfold emit
    rw [unit]
  induction room generalizing path m node with
  | zero =>
    rw [visit, visit, emits]
  | succ room ih =>
    rw [visit, visit, emits, ← agree node.id here]
    congr 2
    refine List.foldl_ext _ _ _ ?_
    intro a next hnext
    rw [ih (node :: path) _ next (closed node.id here next hnext)]

end LiveGraph

namespace Graph

/-- The nodes that lead to a terminal node, and the flow edges between them, are the same in both
graphs. -/
structure SameLivePart (g h : Graph) : Prop where
  nodes : ∀ n, n ∈ g.nodes ∧ g.Leads n.id ↔ n ∈ h.nodes ∧ h.Leads n.id
  edges : ∀ e : Edge, e.relation.isFlow = true →
    (e ∈ g.edges ∧ g.Leads e.source ∧ g.Leads e.target ↔
      e ∈ h.edges ∧ h.Leads e.source ∧ h.Leads e.target)

namespace SameLivePart

variable {g h : Graph}

private theorem symm (same : g.SameLivePart h) : h.SameLivePart g :=
  ⟨fun n => (same.nodes n).symm, fun e flow => (same.edges e flow).symm⟩

private theorem step (same : g.SameLivePart h) (hg : g.Built) (hh : h.Built) {id : NodeId}
    (leads : g.Leads id) {r : Relation} {n : Node} (hn : (r, n) ∈ g.successors id)
    (alive : n.id ∈ g.reachingTerminals) :
    (r, n) ∈ h.successors id ∧ n.id ∈ h.reachingTerminals := by
  rw [mem_reachingTerminals hg.toWellFormed] at alive
  rw [mem_reachingTerminals hh.toWellFormed, hh.mem_successors]
  obtain ⟨flow, he, hnode⟩ := hg.mem_successors.mp hn
  have edge := (same.edges ⟨id, n.id, r⟩ flow).mp ⟨he, leads, alive⟩
  have node := (same.nodes n).mp ⟨hnode, alive⟩
  exact ⟨⟨flow, edge.1, node.1⟩, node.2⟩

private theorem successors_eq (same : g.SameLivePart h) (hg : g.Built) (hh : h.Built) {n : Node}
    (hn : n ∈ g.nodes) (leads : g.Leads n.id) :
    g.live.successors n.id = h.live.successors n.id := by
  have other := (same.nodes n).mp ⟨hn, leads⟩
  rw [live_successors_eq (contains_iff.mpr ⟨n, hn, rfl⟩),
    live_successors_eq (contains_iff.mpr ⟨n, other.1, rfl⟩)]
  refine liveSuccessors_congr hg hh ?_
  intro r a
  constructor
  · rintro ⟨ha, alive⟩
    exact same.step hg hh leads ha alive
  · rintro ⟨ha, alive⟩
    exact same.symm.step hh hg other.2 ha alive

private theorem sources_eq (same : g.SameLivePart h) (hg : g.Built) (hh : h.Built) :
    g.live.sources = h.live.sources := by
  refine hg.eq_of_idLe ?_ hg.nodup_live_sources hh.nodup_live_sources g.pairwise_live_sources
    h.pairwise_live_sources ?_
  · intro n hn
    exact (mem_live_sources.mp hn).1
  · intro n
    rw [mem_live_sources, mem_live_sources, mem_reachingTerminals hg.toWellFormed,
      mem_reachingTerminals hh.toWellFormed, and_left_comm, same.nodes n, and_left_comm]

/-- Graphs of one unit with the same live part are mined alike. -/
private theorem mine_eq (same : g.SameLivePart h) (hg : g.Built) (hh : h.Built)
    (unit : g.unit = h.unit) (limits : MiningLimits) : g.mine limits = h.mine limits := by
  have pass (m : Mining) (edges : Nat) : g.live.pass limits m edges = h.live.pass limits m edges := by
    unfold LiveGraph.pass
    rw [← same.sources_eq hg hh]
    refine List.foldl_ext _ _ _ ?_
    intro m source hsource
    obtain ⟨hnode, _, alive⟩ := mem_live_sources.mp hsource
    rw [mem_reachingTerminals hg.toWellFormed] at alive
    refine LiveGraph.visit_congr (S := fun id => ∃ n ∈ g.nodes, n.id = id ∧ g.Leads id)
      unit ?_ ?_ edges [] m source ⟨source, hnode, rfl, alive⟩
    · rintro id ⟨n, hn, rfl, leads⟩
      exact same.successors_eq hg hh hn leads
    · rintro id ⟨n, hn, rfl, _⟩ a ha
      have next := (mem_live_successors hg.toWellFormed (contains_iff.mpr ⟨n, hn, rfl⟩)).mp ha
      exact ⟨a, next.1, rfl, (mem_reachingTerminals hg.toWellFormed).mp next.2.2⟩
  unfold mine
  rw [funext fun m => funext (pass m)]

private theorem of_flow (nodes : ∀ n, n ∈ g.nodes ↔ n ∈ h.nodes)
    (edges : ∀ e : Edge, e.relation.isFlow = true → (e ∈ g.edges ↔ e ∈ h.edges)) :
    g.SameLivePart h := by
  have flows : g.Flows = h.Flows := by
    funext a b
    exact propext (exists_congr fun r => and_congr_right fun flow => edges ⟨a, b, r⟩ flow)
  have leads (id : NodeId) : g.Leads id ↔ h.Leads id := by
    unfold Leads
    rw [flows]
    exact exists_congr fun t => and_congr_left fun _ => nodes t
  refine ⟨?_, ?_⟩
  · intro n
    rw [nodes n, leads n.id]
  · intro e flow
    rw [edges e flow, leads e.source, leads e.target]

private theorem of_dead (ext : g.Extends h) (nodes : ∀ n ∈ h.nodes, n ∉ g.nodes → ¬ h.Leads n.id)
    (edges : ∀ e ∈ h.edges, e ∉ g.edges → e.relation.isFlow = true → ¬ h.Leads e.target) :
    g.SameLivePart h := by
  have up {id : NodeId} (leads : g.Leads id) : h.Leads id := by
    obtain ⟨t, ht, terminal, path⟩ := leads
    exact ⟨t, ext.nodes ht, terminal,
      Relation.ReflTransGen.mono (fun _ _ flow => ext.flows flow) _ _ path⟩
  have node {n : Node} (hn : n ∈ h.nodes) (leads : h.Leads n.id) : n ∈ g.nodes := by
    by_contra new
    exact nodes n hn new leads
  have edge {e : Edge} (he : e ∈ h.edges) (flow : e.relation.isFlow = true)
      (leads : h.Leads e.target) : e ∈ g.edges := by
    by_contra new
    exact edges e he new flow leads
  -- along a path to a terminal node every edge leads there, so none of them is new
  have down {id : NodeId} (leads : h.Leads id) : g.Leads id := by
    obtain ⟨t, ht, terminal, path⟩ := leads
    induction path using Relation.ReflTransGen.head_induction_on with
    | refl => exact ⟨t, node ht ⟨t, ht, terminal, .refl⟩, terminal, .refl⟩
    | head flow rest ih =>
      obtain ⟨r, hr, he⟩ := flow
      exact .of_flows ⟨r, hr, edge he hr ⟨t, ht, terminal, rest⟩⟩ ih
  refine ⟨?_, ?_⟩
  · intro n
    exact ⟨fun old => ⟨ext.nodes old.1, up old.2⟩, fun new => ⟨node new.1 new.2, down new.2⟩⟩
  · intro e flow
    exact ⟨fun old => ⟨ext.edges old.1, up old.2.1, up old.2.2⟩,
      fun new => ⟨edge new.1 flow new.2.2, down new.2.1, down new.2.2⟩⟩

end SameLivePart

def liveNodes (g : Graph) : List Node :=
  g.nodes.filter fun n => g.reachingTerminals.contains n.id

def liveEdges (g : Graph) : List Edge :=
  g.edges.filter fun e => e.relation.isFlow && g.reachingTerminals.contains e.source &&
    g.reachingTerminals.contains e.target

private theorem sameLivePart_iff {g h : Graph} (hg : g.WellFormed) (hh : h.WellFormed) :
    g.SameLivePart h ↔ (∀ n, n ∈ g.liveNodes ↔ n ∈ h.liveNodes) ∧
      ∀ e, e ∈ g.liveEdges ↔ e ∈ h.liveEdges := by
  simp only [liveNodes, liveEdges, List.mem_filter, Bool.and_eq_true, List.contains_iff_mem,
    mem_reachingTerminals hg, mem_reachingTerminals hh]
  constructor
  · intro same
    refine ⟨same.nodes, ?_⟩
    intro e
    cases flow : e.relation.isFlow with
    | false => simp
    | true => simpa using same.edges e flow
  · rintro ⟨nodes, edges⟩
    refine ⟨nodes, ?_⟩
    intro e flow
    simpa [flow] using edges e

/-- Mining sees nothing of a graph but its live part. Graphs of one unit that were built in any
steps are mined alike if they have the same live part: the findings and their order, the limit that
was hit and the work are the same. So it does not matter in which order nodes and edges were added
or which secrets the root declares, and what leads to no terminal node costs nothing. -/
theorem mining_of_live_part (unit : String) (steps more : List GraphStep) (limits : MiningLimits) :
    let g := ({ unit := unit } : Graph).run steps
    let h := ({ unit := unit } : Graph).run more
    let longer := g.run more
    (g.SameLivePart h → g.mine limits = h.mine limits) ∧
    ((∀ n, n ∈ g.nodes ↔ n ∈ h.nodes) →
      (∀ e : Edge, e.relation.isFlow = true → (e ∈ g.edges ↔ e ∈ h.edges)) →
      g.mine limits = h.mine limits) ∧
    ((∀ n ∈ longer.nodes, n ∉ g.nodes → ¬ longer.Leads n.id) →
      (∀ e ∈ longer.edges, e ∉ g.edges → e.relation.isFlow = true → ¬ longer.Leads e.target) →
      g.mine limits = longer.mine limits) := by
  intro g h longer
  have hg : g.Built := built_run unit steps
  have hh : h.Built := built_run unit more
  have units (steps : List GraphStep) : (({ unit := unit } : Graph).run steps).unit = unit :=
    run_unit _ steps
  refine ⟨?_, ?_, ?_⟩
  · intro same
    exact same.mine_eq hg hh ((units steps).trans (units more).symm) limits
  · intro nodes edges
    exact (SameLivePart.of_flow nodes edges).mine_eq hg hh ((units steps).trans (units more).symm)
      limits
  · intro nodes edges
    have joined : longer = ({ unit := unit } : Graph).run (steps ++ more) :=
      (run_append _ steps more).symm
    have hlonger : longer.Built := joined ▸ built_run unit (steps ++ more)
    exact (SameLivePart.of_dead (extends_run g more) nodes edges).mine_eq hg hlonger
      (run_unit g more).symm limits

/-- A variable that holds a secret and a statement that prints it, built in two orders. The second
graph also has the root, which declares the secret, and a variable that is never used. -/
theorem mining_of_live_part_reordered :
    let secret : Node := ⟨"s", .secretDeclaration, none, .secret "api" none "TOKEN"⟩
    let unused : Node := ⟨"v", .envVarRef, none, .name "TOKEN"⟩
    let statement : Node := ⟨"p", .scriptStatement, none, .text "echo $TOKEN"⟩
    let sink : Node := ⟨"p:sink", .externalSink .stdout "echo", none, .text "echo $TOKEN"⟩
    let g := ({ unit := "u" } : Graph).run [.node secret, .node statement, .node sink,
      .edge ⟨"s", "p", .injectsInto⟩, .edge ⟨"p", "p:sink", .flowsTo⟩]
    let h := ({ unit := "u" } : Graph).run [.node ⟨"root", .manifestRoot, none, .none⟩, .node sink,
      .node unused, .node statement, .edge ⟨"p", "p:sink", .flowsTo⟩, .node secret,
      .edge ⟨"s", "v", .injectsInto⟩, .edge ⟨"s", "p", .injectsInto⟩,
      .edge ⟨"root", "s", .declares⟩]
    g.SameLivePart h ∧ g.mine = h.mine := by
  intro secret unused statement sink g h
  have nodes : g.liveNodes ⊆ h.liveNodes ∧ h.liveNodes ⊆ g.liveNodes := by decide +kernel
  have edges : g.liveEdges ⊆ h.liveEdges ∧ h.liveEdges ⊆ g.liveEdges := by decide +kernel
  have same : g.SameLivePart h :=
    (sameLivePart_iff (built_run _ _).toWellFormed (built_run _ _).toWellFormed).mpr
      ⟨fun _ => ⟨fun hn => nodes.1 hn, fun hn => nodes.2 hn⟩,
        fun _ => ⟨fun he => edges.1 he, fun he => edges.2 he⟩⟩
  exact ⟨same, (mining_of_live_part "u" _ _ {}).1 same⟩

end Graph

end SecretFlow

import SecretFlow.Proofs.IndexedGraphs

set_option autoImplicit false
set_option relaxedAutoImplicit false

/-!
The walk against the flow over a stored graph. Every place that is come to waits once to be looked
at, and when nothing waits any more, the places that were come to are those from which secrets flow
on to a terminal node. Cycles, parallel edges and terminal nodes on the way make no difference.
-/

namespace SecretFlow

namespace Backwalk

variable {w : Backwalk} {p q : Nat}

private theorem mem_seen_meet : q ∈ (w.meet p).seen ↔ q ∈ w.seen ∨ q = p := by
  unfold meet
  split
  · rename_i old
    constructor
    · exact .inl
    · rintro (before | rfl)
      · exact before
      · exact Std.HashSet.contains_iff_mem.mp old
  · simp only [Std.HashSet.mem_insert, beq_iff_eq]
    rw [or_comm, eq_comm]

private theorem mem_waiting_meet : q ∈ (w.meet p).waiting ↔ q ∈ w.waiting ∨ q ∉ w.seen ∧ q = p := by
  unfold meet
  split
  · rename_i old
    constructor
    · exact .inl
    · rintro (before | ⟨fresh, rfl⟩)
      · exact before
      · exact absurd (Std.HashSet.contains_iff_mem.mp old) fresh
  · rename_i fresh
    rw [Std.HashSet.contains_iff_mem] at fresh
    simp only [List.mem_append, List.mem_singleton]
    constructor
    · rintro (before | rfl)
      · exact .inl before
      · exact .inr ⟨fresh, rfl⟩
    · rintro (before | ⟨-, rfl⟩)
      · exact .inl before
      · exact .inr rfl

end Backwalk

namespace IndexedGraph

variable {g : IndexedGraph} {w : Backwalk} {p q : Nat}

/-! ### Places that are come to -/

def FlowLink (g : IndexedGraph) (p q : Nat) : Prop :=
  ∃ l ∈ g.links.toList, l.relation.isFlow = true ∧ l.source = p ∧ l.target = q

private theorem exists_flowLinksInto :
    (∃ l ∈ g.flowLinksInto p, l.source = q) ↔ g.FlowLink q p := by
  simp only [flowLinksInto, List.mem_filter, Bool.and_eq_true, decide_eq_true_eq, FlowLink]
  constructor
  · rintro ⟨l, ⟨hl, flow, target⟩, source⟩
    exact ⟨l, hl, flow, source, target⟩
  · rintro ⟨l, hl, flow, source, target⟩
    exact ⟨l, ⟨hl, flow, target⟩, source⟩

private theorem mem_lookBack : (q ∈ (g.lookBack p w).seen ↔ q ∈ w.seen ∨ g.FlowLink q p) ∧
    (q ∈ (g.lookBack p w).waiting ↔ q ∈ w.waiting ∨ q ∉ w.seen ∧ g.FlowLink q p) := by
  rw [← exists_flowLinksInto, lookBack]
  generalize g.flowLinksInto p = links
  induction links generalizing w with
  | nil => simp
  | cons l links ih =>
    obtain ⟨seen, waiting⟩ := ih (w := w.meet l.source)
    rw [List.foldl_cons, seen, waiting]
    simp only [Backwalk.mem_seen_meet, Backwalk.mem_waiting_meet, List.exists_mem_cons_iff]
    constructor
    · grind
    · grind

/-! ### The walk -/

/-- What holds all along a walk: the places that wait have been come to, and so have been all
places from which secrets flow to a place that waits no longer. -/
structure OnWalk (g : IndexedGraph) (w : Backwalk) : Prop where
  known : ∀ p ∈ w.waiting, p ∈ w.seen
  settled : ∀ p q, g.FlowLink p q → q ∈ w.seen → q ∉ w.waiting → p ∈ w.seen

private theorem OnWalk.start {terminals : List Nat} : g.OnWalk ⟨terminals, .ofList terminals⟩ where
  known := by simp
  settled := by
    intro p q _ come waits
    exact absurd (by simpa using come) waits

private theorem OnWalk.lookBack {rest : List Nat} {seen : Std.HashSet Nat}
    (on : g.OnWalk ⟨p :: rest, seen⟩) : g.OnWalk (g.lookBack p ⟨rest, seen⟩) where
  known := by
    intro q waits
    rw [mem_lookBack.1]
    rcases mem_lookBack.2.mp waits with before | ⟨-, flow⟩
    · exact .inl (on.known q (List.mem_cons_of_mem p before))
    · exact .inr flow
  settled := by
    intro a b flow come waits
    rw [mem_lookBack.1] at come ⊢
    rw [mem_lookBack.2] at waits
    have old : b ∈ seen := by
      by_contra fresh
      exact waits (.inr ⟨fresh, come.resolve_left fresh⟩)
    by_cases turn : b = p
    · exact .inr (turn ▸ flow)
    · refine .inl (on.settled a b flow old fun waited => ?_)
      exact waits (.inl (List.mem_of_ne_of_mem turn waited))

/-- A walk comes to the places from which secrets flow to those where it started, and to no
others. -/
private theorem OnWalk.mem_walkBack (on : g.OnWalk w) :
    p ∈ g.walkBack w ↔ ∃ q ∈ w.seen, Relation.ReflTransGen g.FlowLink p q := by
  fun_induction walkBack g w with
  | case1 seen =>
    constructor
    · intro come
      exact ⟨p, come, .refl⟩
    · rintro ⟨q, come, path⟩
      induction path using Relation.ReflTransGen.head_induction_on with
      | refl => exact come
      | head flow _ ih => exact on.settled _ _ flow ih List.not_mem_nil
  | case2 place rest seen ih =>
    have here : place ∈ seen := on.known place List.mem_cons_self
    rw [ih on.lookBack]
    simp only [mem_lookBack.1]
    constructor
    · rintro ⟨q, come | flow, path⟩
      · exact ⟨q, come, path⟩
      · exact ⟨place, here, path.tail flow⟩
    · rintro ⟨q, come, path⟩
      exact ⟨q, .inl come, path⟩

/-! ### From places to ids -/

private theorem mem_terminalPlaces :
    p ∈ g.terminalPlaces ↔ ∃ n, g.nodes[p]? = some n ∧ n.kind.isTerminal = true := by
  simp only [terminalPlaces, List.mem_filter, List.mem_range, Option.any_eq_true]
  constructor
  · exact And.right
  · rintro ⟨n, hn, terminal⟩
    exact ⟨(Array.getElem?_eq_some_iff.mp hn).1, n, hn, terminal⟩

private theorem mem_reachingTerminals_iff_place {id : NodeId} : id ∈ g.reachingTerminals ↔
    ∃ p n, g.nodes[p]? = some n ∧ n.id = id ∧
      ∃ q ∈ g.terminalPlaces, Relation.ReflTransGen g.FlowLink p q := by
  simp only [reachingTerminals, Std.HashSet.mem_ofList, List.contains_iff_mem, List.mem_filterMap,
    Option.map_eq_some_iff, Std.HashSet.mem_toList, OnWalk.start.mem_walkBack]
  constructor
  · rintro ⟨p, path, n, hn, same⟩
    exact ⟨p, n, hn, same, path⟩
  · rintro ⟨p, n, hn, same, path⟩
    exact ⟨p, path, n, hn, same⟩

namespace InStep

private theorem place_unique (s : g.InStep) {a b : Node} (ha : g.nodes[p]? = some a)
    (hb : g.nodes[q]? = some b) (same : a.id = b.id) : p = q := by
  have first := s.place_iff.mpr ⟨a, ha, same⟩
  have second := s.place_iff.mpr ⟨b, hb, rfl⟩
  exact Option.some.inj (first.symm.trans second)

private theorem flows_iff (s : g.InStep) {a b : Node} (ha : g.nodes[p]? = some a)
    (hb : g.nodes[q]? = some b) : g.toGraph.Flows a.id b.id ↔ g.FlowLink p q := by
  constructor
  · rintro ⟨r, flow, he⟩
    obtain ⟨l, hl, named⟩ := s.mem_edges.mp he
    obtain ⟨source, target, rfl⟩ := link_eq_ok.mp named
    obtain ⟨a', ha', samea⟩ := s.place_iff.mp source
    obtain ⟨b', hb', sameb⟩ := s.place_iff.mp target
    exact ⟨l, hl, flow, s.place_unique ha' ha samea, s.place_unique hb' hb sameb⟩
  · rintro ⟨l, hl, flow, rfl, rfl⟩
    refine ⟨l.relation, flow, s.mem_edges.mpr ⟨l, hl, link_eq_ok.mpr ?_⟩⟩
    exact ⟨s.place_iff.mpr ⟨a, ha, rfl⟩, s.place_iff.mpr ⟨b, hb, rfl⟩, rfl⟩

private theorem exists_nodes_of_flowLink (s : g.InStep) (flow : g.FlowLink p q) :
    (∃ a, g.nodes[p]? = some a) ∧ ∃ b, g.nodes[q]? = some b := by
  obtain ⟨l, hl, -, rfl, rfl⟩ := flow
  obtain ⟨source, target⟩ := s.ends l hl
  exact ⟨⟨_, Array.getElem?_eq_getElem source⟩, ⟨_, Array.getElem?_eq_getElem target⟩⟩

private theorem exists_places_of_flows (s : g.InStep) {x y : NodeId} (flow : g.toGraph.Flows x y) :
    ∃ (p q : Nat) (a b : Node), g.nodes[p]? = some a ∧ g.nodes[q]? = some b ∧ a.id = x ∧
      b.id = y := by
  obtain ⟨r, -, he⟩ := flow
  obtain ⟨l, -, named⟩ := s.mem_edges.mp he
  obtain ⟨source, target, -⟩ := link_eq_ok.mp named
  obtain ⟨a, ha, samea⟩ := s.place_iff.mp source
  obtain ⟨b, hb, sameb⟩ := s.place_iff.mp target
  exact ⟨l.source, l.target, a, b, ha, hb, samea, sameb⟩

private theorem mem_reachingTerminals (s : g.InStep) {id : NodeId} :
    id ∈ g.reachingTerminals ↔ g.toGraph.Leads id := by
  rw [mem_reachingTerminals_iff_place]
  constructor
  · rintro ⟨p, n, hn, rfl, q, hq, path⟩
    obtain ⟨t, ht, terminal⟩ := mem_terminalPlaces.mp hq
    induction path using Relation.ReflTransGen.head_induction_on generalizing n with
    | refl =>
      obtain rfl : n = t := Option.some.inj (hn.symm.trans ht)
      exact ⟨n, Array.mem_toList_iff.mpr (Array.mem_of_getElem? ht), terminal, .refl⟩
    | head flow _ ih =>
      obtain ⟨-, b, hb⟩ := s.exists_nodes_of_flowLink flow
      exact .of_flows ((s.flows_iff hn hb).mpr flow) (ih b hb)
  · rintro ⟨t, ht, terminal, path⟩
    induction path using Relation.ReflTransGen.head_induction_on with
    | refl =>
      obtain ⟨q, hq⟩ := Array.getElem?_of_mem (Array.mem_toList_iff.mp ht)
      exact ⟨q, t, hq, rfl, q, mem_terminalPlaces.mpr ⟨t, hq, terminal⟩, .refl⟩
    | head flow _ ih =>
      obtain ⟨p, q, a, b, ha, hb, rfl, rfl⟩ := s.exists_places_of_flows flow
      obtain ⟨q', b', hb', same, e, he, path⟩ := ih
      obtain rfl : q' = q := s.place_unique hb' hb same
      exact ⟨p, a, ha, rfl, e, he, path.head ((s.flows_iff ha hb).mp flow)⟩

end InStep

end IndexedGraph

/-! ### Paths to terminal nodes -/

def FlowEdge (edges : List Edge) (a b : NodeId) : Prop :=
  ∃ r ∈ [Relation.injectsInto, .referencedBy, .flowsTo], (⟨a, b, r⟩ : Edge) ∈ edges

/-- The id is that of a terminal node, or a path of one flow edge or more leads from it to a
terminal node. The path may go through terminal nodes, and edges that declare are no part of it. -/
def ReachesTerminal (nodes : List Node) (edges : List Edge) (id : NodeId) : Prop :=
  (∃ n ∈ nodes, n.id = id ∧ n.kind.isTerminal = true) ∨
    ∃ t ∈ nodes, t.kind.isTerminal = true ∧ Relation.TransGen (FlowEdge edges) id t.id

namespace Graph

private theorem flows_eq_flowEdge (g : Graph) : g.Flows = FlowEdge g.edges := by
  funext a b
  refine propext ⟨?_, ?_⟩
  · rintro ⟨r, flow, he⟩
    refine ⟨r, ?_, he⟩
    cases r with
    | declares => cases flow
    | injectsInto | referencedBy | flowsTo => simp
  · rintro ⟨r, hr, he⟩
    refine ⟨r, ?_, he⟩
    simp only [List.mem_cons, List.not_mem_nil, or_false] at hr
    rcases hr with rfl | rfl | rfl <;> rfl

private theorem leads_iff {g : Graph} {id : NodeId} :
    g.Leads id ↔ ReachesTerminal g.nodes g.edges id := by
  simp only [Leads, Relation.reflTransGen_iff_eq_or_transGen, flows_eq_flowEdge, ReachesTerminal]
  constructor
  · rintro ⟨t, ht, terminal, here | path⟩
    · exact .inl ⟨t, ht, here, terminal⟩
    · exact .inr ⟨t, ht, terminal, path⟩
  · rintro (⟨t, ht, here, terminal⟩ | ⟨t, ht, terminal, path⟩)
    · exact ⟨t, ht, terminal, .inl here⟩
    · exact ⟨t, ht, terminal, .inr path⟩

end Graph

/-- The nodes from which a terminal node can be reached are found exactly, in a stored graph after
any calls and in the plain graph that the same steps build. -/
theorem reaching_terminals_exact (unit : String) (calls : List GraphCall) (id : NodeId) :
    let stored := IndexedGraph.after unit calls
    let plain := ({ unit := unit } : Graph).run (GraphCall.steps calls)
    (id ∈ stored.reachingTerminals ↔ ReachesTerminal stored.nodes.toList stored.edges id) ∧
      (id ∈ plain.reachingTerminals ↔ ReachesTerminal plain.nodes plain.edges id) := by
  intro stored plain
  constructor
  · rw [(IndexedGraph.inStep_after unit calls).mem_reachingTerminals, Graph.leads_iff]
    exact .rfl
  · rw [Graph.mem_reachingTerminals (Graph.built_run unit (GraphCall.steps calls)).toWellFormed,
      Graph.leads_iff]

end SecretFlow

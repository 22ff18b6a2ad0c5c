import Mathlib.Data.List.Induction
import SecretFlow.Graph.Indexed
import SecretFlow.Proofs.Declarations
import SecretFlow.Proofs.LivePart

set_option autoImplicit false
set_option relaxedAutoImplicit false

/-!
A stored graph never falls out of step with its indexes: whatever calls are made, it is the graph
that the same steps build without indexes, and every way of looking at it tells of the same nodes
and edges.
-/

namespace SecretFlow

namespace IndexedGraph

/-- The index leads to the nodes of the ids and nowhere else, links join places of nodes, and the
known links are those that are stored, each of them once. -/
structure InStep (g : IndexedGraph) : Prop where
  place_iff : ∀ {id : NodeId} {i : Nat},
    g.index[id]? = some i ↔ ∃ n, g.nodes[i]? = some n ∧ n.id = id
  ends : ∀ l ∈ g.links.toList, l.source < g.nodes.size ∧ l.target < g.nodes.size
  known_iff : ∀ {l : Link}, l ∈ g.known ↔ l ∈ g.links.toList
  once : g.links.toList.Nodup

variable {g : IndexedGraph}

/-! ### Nodes and places -/

private theorem contains_eq_isSome (id : NodeId) : g.contains id = g.index[id]?.isSome :=
  Std.HashMap.contains_eq_isSome_getElem?

private theorem place_eq_ok {id : NodeId} {i : Nat} :
    g.place id = .ok i ↔ g.index[id]? = some i := by
  unfold place
  split <;> simp [*]

theorem link_eq_ok {e : Edge} {l : Link} : g.link e = .ok l ↔
    g.index[e.source]? = some l.source ∧ g.index[e.target]? = some l.target ∧
      e.relation = l.relation := by
  rw [← place_eq_ok, ← place_eq_ok]
  obtain ⟨s, t, r⟩ := l
  unfold link
  cases g.place e.source <;> cases g.place e.target <;>
    simp [bind, Except.bind, pure, Except.pure]

private theorem link_eq_error {e : Edge} {m : MissingEndpoint} : g.link e = .error m ↔
    g.contains e.source = false ∧ m.id = e.source ∨
      g.contains e.source = true ∧ g.contains e.target = false ∧ m.id = e.target := by
  obtain ⟨id⟩ := m
  rw [contains_eq_isSome, contains_eq_isSome]
  unfold link place
  cases g.index[e.source]? <;> cases g.index[e.target]? <;>
    simp [bind, Except.bind, pure, Except.pure, eq_comm]

private theorem contains_of_link {e : Edge} {l : Link} (named : g.link e = .ok l) :
    g.contains e.source = true ∧ g.contains e.target = true := by
  obtain ⟨source, target, -⟩ := link_eq_ok.mp named
  simp [contains_eq_isSome, source, target]

private theorem edge?_eq_some {l : Link} {e : Edge} : g.edge? l = some e ↔
    ∃ a b, g.nodes[l.source]? = some a ∧ g.nodes[l.target]? = some b ∧
      ⟨a.id, b.id, l.relation⟩ = e := by
  simp [edge?, Option.bind_eq_some_iff]

namespace InStep

private theorem contains_iff (s : g.InStep) {id : NodeId} :
    g.contains id = true ↔ ∃ n ∈ g.nodes.toList, n.id = id := by
  rw [contains_eq_isSome, Option.isSome_iff_exists]
  constructor
  · rintro ⟨i, hi⟩
    obtain ⟨n, hn, same⟩ := s.place_iff.mp hi
    exact ⟨n, Array.mem_toList_iff.mpr (Array.mem_of_getElem? hn), same⟩
  · rintro ⟨n, hn, same⟩
    obtain ⟨i, hi⟩ := List.getElem?_of_mem hn
    exact ⟨i, s.place_iff.mpr ⟨n, by simpa using hi, same⟩⟩

private theorem node?_eq_some (s : g.InStep) {id : NodeId} {n : Node} :
    g.node? id = some n ↔ n ∈ g.nodes.toList ∧ n.id = id := by
  rw [node?, Option.bind_eq_some_iff]
  constructor
  · rintro ⟨i, hi, hn⟩
    obtain ⟨m, hm, same⟩ := s.place_iff.mp hi
    obtain rfl : m = n := Option.some.inj (hm.symm.trans hn)
    exact ⟨Array.mem_toList_iff.mpr (Array.mem_of_getElem? hn), same⟩
  · rintro ⟨hn, same⟩
    obtain ⟨i, hi⟩ := List.getElem?_of_mem hn
    have hi : g.nodes[i]? = some n := by simpa using hi
    exact ⟨i, s.place_iff.mpr ⟨n, hi, same⟩, hi⟩

/-! ### Edges and links -/

private theorem edge?_iff (s : g.InStep) {l : Link} {e : Edge} :
    g.edge? l = some e ↔ g.link e = .ok l := by
  rw [edge?_eq_some, link_eq_ok, s.place_iff, s.place_iff]
  constructor
  · rintro ⟨a, b, ha, hb, rfl⟩
    exact ⟨⟨a, ha, rfl⟩, ⟨b, hb, rfl⟩, rfl⟩
  · rintro ⟨⟨a, ha, source⟩, ⟨b, hb, target⟩, relation⟩
    exact ⟨a, b, ha, hb, by rw [source, target, ← relation]⟩

private theorem exists_edge (s : g.InStep) {l : Link} (hl : l ∈ g.links.toList) :
    ∃ e, g.edge? l = some e := by
  obtain ⟨source, target⟩ := s.ends l hl
  exact ⟨_, edge?_eq_some.mpr ⟨g.nodes[l.source], g.nodes[l.target],
    Array.getElem?_eq_getElem source, Array.getElem?_eq_getElem target, rfl⟩⟩

theorem mem_edges (s : g.InStep) {e : Edge} :
    e ∈ g.edges ↔ ∃ l ∈ g.links.toList, g.link e = .ok l := by
  simp only [edges, List.mem_filterMap, s.edge?_iff]

private theorem link_mem (s : g.InStep) {e : Edge} {l : Link} (named : g.link e = .ok l) :
    g.known.contains l = true ↔ e ∈ g.edges := by
  -- the set of known links answers for the edges, as an edge has one link at most
  rw [s.mem_edges, Std.HashSet.contains_iff_mem, s.known_iff]
  constructor
  · intro hl
    exact ⟨l, hl, named⟩
  · rintro ⟨l', hl, named'⟩
    obtain rfl : l = l' := Except.ok.inj (named.symm.trans named')
    exact hl

private theorem hasEdge_iff (s : g.InStep) {e : Edge} : g.hasEdge e = true ↔ e ∈ g.edges := by
  unfold hasEdge
  split
  · rename_i l named
    exact s.link_mem named
  · rename_i m missing
    simp [s.mem_edges, missing]

private theorem edgeCount_eq (s : g.InStep) : g.edgeCount = g.edges.length := by
  have every : ∀ l ∈ g.links.toList, (g.edge? l).isSome := fun l hl =>
    Option.isSome_iff_exists.mpr (s.exists_edge hl)
  exact (List.filterMap_length_eq_length.mpr every).symm

private theorem inDegree_eq (s : g.InStep) (id : NodeId) :
    g.inDegree id = g.edges.countP (·.target = id) := by
  have target : ∀ l ∈ g.links.toList,
      (((g.edge? l).map fun e => decide (e.target = id)).getD false = true ↔
        g.index[id]? = some l.target) := by
    intro l hl
    obtain ⟨e, he⟩ := s.exists_edge hl
    obtain ⟨-, place, -⟩ := link_eq_ok.mp (s.edge?_iff.mp he)
    simp only [he, Option.map_some, Option.getD_some, decide_eq_true_eq]
    constructor
    · rintro rfl
      exact place
    · intro same
      obtain ⟨a, ha, rfl⟩ := s.place_iff.mp same
      obtain ⟨b, hb, target⟩ := s.place_iff.mp place
      rw [← target, Option.some.inj (hb.symm.trans ha)]
  -- An id that is no node has no place, and then both counts are zero.
  rw [edges, List.countP_filterMap, List.countP_congr (q := fun l => g.index[id]? = some l.target)
    (by simpa using target), inDegree]
  cases g.index[id]? with
  | none => simp
  | some i => simp [eq_comm]

/-! ### Steps -/

private theorem start (unit : String) : ({ unit := unit } : IndexedGraph).InStep where
  place_iff := by simp
  ends := by simp
  known_iff := by simp
  once := List.nodup_nil

private theorem pushNode (s : g.InStep) {n : Node} (fresh : g.contains n.id = false) :
    (g.pushNode n).InStep where
  place_iff := by
    have absent : ∀ (i : Nat) (m : Node), g.nodes[i]? = some m → m.id ≠ n.id := by
      intro i m hm same
      have taken := s.contains_iff.mpr
        ⟨m, Array.mem_toList_iff.mpr (Array.mem_of_getElem? hm), same⟩
      simp [fresh] at taken
    intro id i
    -- The index and the array change at the same two points: at the new id, at the last place.
    simp only [IndexedGraph.pushNode, Std.HashMap.getElem?_insert, Array.getElem?_push, beq_iff_eq]
    by_cases last : i = g.nodes.size
    · subst last
      have outside : g.index[id]? ≠ some g.nodes.size := by
        intro found
        obtain ⟨m, hm, -⟩ := s.place_iff.mp found
        simp at hm
      by_cases same : n.id = id <;> simp [same, outside]
    · by_cases same : n.id = id
      · subst same
        simpa [last, Ne.symm last] using absent i
      · simpa [last, same] using s.place_iff
  ends := by
    intro l hl
    have inside := s.ends l hl
    simp only [IndexedGraph.pushNode, Array.size_push]
    omega
  known_iff := s.known_iff
  once := s.once

private theorem pushLink (s : g.InStep) {e : Edge} {l : Link} (named : g.link e = .ok l)
    (new : e ∉ g.edges) : (g.pushLink l).InStep where
  place_iff := s.place_iff
  ends := by
    obtain ⟨source, target, -⟩ := link_eq_ok.mp named
    obtain ⟨a, ha, -⟩ := s.place_iff.mp source
    obtain ⟨b, hb, -⟩ := s.place_iff.mp target
    intro k hk
    simp only [IndexedGraph.pushLink, Array.toList_push, List.mem_append, List.mem_singleton] at hk
    rcases hk with hk | rfl
    · exact s.ends k hk
    · exact ⟨(Array.getElem?_eq_some_iff.mp ha).1, (Array.getElem?_eq_some_iff.mp hb).1⟩
  known_iff := by
    intro k
    simp only [IndexedGraph.pushLink, Std.HashSet.mem_insert, beq_iff_eq, s.known_iff,
      Array.toList_push, List.mem_append, List.mem_singleton]
    rw [or_comm, eq_comm]
  once := by
    simp only [IndexedGraph.pushLink, Array.toList_push]
    refine s.once.append (List.nodup_singleton l) ?_
    intro k hk same
    rw [List.mem_singleton] at same
    exact new (s.mem_edges.mpr ⟨k, hk, same ▸ named⟩)

private theorem addEdge_cases (s : g.InStep) (e : Edge) :
    (∃ m, g.link e = .error m ∧ g.addEdge e = (g, .error m)) ∨
      (∃ l, g.link e = .ok l ∧ e ∈ g.edges ∧ g.addEdge e = (g, .ok false)) ∨
      ∃ l, g.link e = .ok l ∧ e ∉ g.edges ∧ g.addEdge e = (g.pushLink l, .ok true) := by
  unfold IndexedGraph.addEdge
  cases named : g.link e with
  | error m => exact .inl ⟨m, rfl, rfl⟩
  | ok l =>
    simp only [s.link_mem named]
    by_cases old : e ∈ g.edges
    · exact .inr (.inl ⟨l, rfl, old, if_pos old⟩)
    · exact .inr (.inr ⟨l, rfl, old, if_neg old⟩)

private theorem step (s : g.InStep) (t : GraphStep) : (g.step t).InStep := by
  cases t with
  | node n =>
    simp only [IndexedGraph.step, addNode]
    split
    · exact s
    · rename_i fresh
      exact s.pushNode (by simpa using fresh)
  | edge e =>
    rw [IndexedGraph.step]
    obtain ⟨m, -, eq⟩ | ⟨l, -, -, eq⟩ | ⟨l, named, new, eq⟩ := s.addEdge_cases e
    · rwa [eq]
    · rwa [eq]
    · rw [eq]
      exact s.pushLink named new
  | note d => exact ⟨s.place_iff, s.ends, s.known_iff, s.once⟩

private theorem call (s : g.InStep) (c : GraphCall) : (g.call c).InStep := by
  cases c with
  | step t => exact s.step t
  | takeDiagnostics => exact ⟨s.place_iff, s.ends, s.known_iff, s.once⟩

end InStep

/-- No sequence of calls brings a graph out of step with its indexes. -/
theorem inStep_after (unit : String) (calls : List GraphCall) : (after unit calls).InStep :=
  List.foldlRecOn (motive := InStep) calls IndexedGraph.call (.start unit) fun _ s c _ => s.call c

namespace InStep

private theorem edges_pushNode (s : g.InStep) (n : Node) : (g.pushNode n).edges = g.edges := by
  refine List.filterMap_congr ?_
  intro l hl
  obtain ⟨source, target⟩ := s.ends l hl
  simp only [edge?, IndexedGraph.pushNode, Array.getElem?_push_lt source,
    Array.getElem?_push_lt target, Array.getElem?_eq_getElem source,
    Array.getElem?_eq_getElem target]

private theorem edges_pushLink (s : g.InStep) {l : Link} {e : Edge} (named : g.link e = .ok l) :
    (g.pushLink l).edges = g.edges ++ [e] := by
  have stands : g.edge? l = some e := s.edge?_iff.mpr named
  have edges : (g.pushLink l).edges = (g.links.toList ++ [l]).filterMap g.edge? :=
    congrArg (List.filterMap g.edge?) Array.toList_push
  rw [edges, List.filterMap_append, List.filterMap_cons_some stands]
  rfl

/-! ### The graph without its indexes -/

private theorem contains_toGraph (s : g.InStep) (id : NodeId) :
    g.toGraph.contains id = g.contains id := by
  rw [Bool.eq_iff_iff, Graph.contains_iff, s.contains_iff]
  rfl

private theorem toGraph_step (s : g.InStep) (t : GraphStep) :
    (g.step t).toGraph = g.toGraph.step t := by
  cases t with
  | node n =>
    simp only [IndexedGraph.step, addNode, Graph.step, Graph.addNode, s.contains_toGraph]
    split
    · rfl
    · have nodes : (g.pushNode n).nodes.toList = g.nodes.toList ++ [n] := Array.toList_push
      simp only [toGraph, s.edges_pushNode, nodes]
      rfl
  | edge e =>
    rw [Graph.step_edge, s.contains_toGraph, s.contains_toGraph, IndexedGraph.step]
    obtain ⟨m, missing, eq⟩ | ⟨l, named, old, eq⟩ | ⟨l, named, new, eq⟩ := s.addEdge_cases e
    · rw [eq, if_neg]
      rintro ⟨source, target, -⟩
      simp [link_eq_error, source, target] at missing
    · rw [eq, if_neg]
      rintro ⟨-, -, new⟩
      exact new old
    · obtain ⟨source, target⟩ := contains_of_link named
      rw [eq, if_pos ⟨source, target, new⟩]
      simp only [toGraph, s.edges_pushLink named]
      rfl
  | note d =>
    have noted : (g.pushDiagnostic d).diagnostics.toList = g.diagnostics.toList ++ [d] :=
      Array.toList_push
    simp only [IndexedGraph.step, toGraph, noted]
    rfl

end InStep

end IndexedGraph

def GraphCall.steps (calls : List GraphCall) : List GraphStep :=
  calls.filterMap fun
    | .step s => some s
    | .takeDiagnostics => none

namespace Graph

def silent (g : Graph) : Graph :=
  { g with diagnostics := [] }

private theorem silent_step (g : Graph) (s : GraphStep) :
    (g.silent.step s).silent = (g.step s).silent := by
  cases s with
  | node n =>
    simp only [step, addNode, apply_ite silent]
    rfl
  | edge e =>
    simp only [step_edge, apply_ite silent]
    rfl
  | note d => rfl

end Graph

namespace IndexedGraph

private theorem after_concat (unit : String) (calls : List GraphCall) (c : GraphCall) :
    after unit (calls ++ [c]) = (after unit calls).call c := by
  simp [after]

private theorem silent_after (unit : String) (calls : List GraphCall) :
    (after unit calls).toGraph.silent =
      (({ unit := unit } : Graph).run (GraphCall.steps calls)).silent := by
  induction calls using List.reverseRecOn with
  | nil => rfl
  | append_singleton calls c ih =>
    rw [after_concat]
    cases c with
    | step s =>
      have steps : GraphCall.steps (calls ++ [.step s]) = GraphCall.steps calls ++ [s] := by
        simp [GraphCall.steps]
      rw [steps, Graph.run_append, Graph.run_cons, Graph.run_nil, ← Graph.silent_step, ← ih,
        Graph.silent_step, call, (inStep_after unit calls).toGraph_step]
    | takeDiagnostics =>
      have steps : GraphCall.steps (calls ++ [.takeDiagnostics]) = GraphCall.steps calls := by
        simp [GraphCall.steps]
      rw [steps, ← ih]
      rfl

private theorem nodes_after (unit : String) (calls : List GraphCall) :
    (after unit calls).toGraph.nodes =
      (({ unit := unit } : Graph).run (GraphCall.steps calls)).nodes := by
  have same := congrArg Graph.nodes (silent_after unit calls)
  exact same

private theorem edges_after (unit : String) (calls : List GraphCall) :
    (after unit calls).toGraph.edges =
      (({ unit := unit } : Graph).run (GraphCall.steps calls)).edges := by
  have same := congrArg Graph.edges (silent_after unit calls)
  exact same

private theorem built_after (unit : String) (calls : List GraphCall) :
    (after unit calls).toGraph.Built := by
  obtain ⟨⟨unique, closed⟩, once⟩ := Graph.built_run unit (GraphCall.steps calls)
  simp only [Graph.contains_iff] at closed
  rw [← nodes_after] at unique closed
  rw [← edges_after] at closed once
  exact ⟨⟨unique, by simpa only [Graph.contains_iff] using closed⟩, once⟩

private theorem node?_after (unit : String) (calls : List GraphCall) (id : NodeId) :
    (after unit calls).node? id =
      (GraphStep.made (GraphCall.steps calls)).find? (·.id = id) := by
  have looked : (after unit calls).node? id = (after unit calls).toGraph.node? id := by
    refine Option.ext fun n => ?_
    rw [(inStep_after unit calls).node?_eq_some, (built_after unit calls).node?_eq_some]
    rfl
  have first := Graph.node?_run { unit := unit } (GraphCall.steps calls) id
  rw [looked, Graph.node?, nodes_after]
  exact first

/-! ### Accepted edges -/

/-- An edge is accepted when a call to add it is answered without an error. -/
def Accepted (unit : String) (calls : List GraphCall) (e : Edge) : Prop :=
  ∃ before, before ++ [.step (.edge e)] <+: calls ∧
    ∃ new, ((after unit before).addEdge e).2 = .ok new

private theorem accepted_concat {unit : String} {calls : List GraphCall} {c : GraphCall}
    {e : Edge} : Accepted unit (calls ++ [c]) e ↔ Accepted unit calls e ∨
      c = .step (.edge e) ∧ ∃ new, ((after unit calls).addEdge e).2 = .ok new := by
  unfold Accepted
  constructor
  · rintro ⟨before, stands, answer⟩
    rcases List.prefix_concat_iff.mp stands with last | earlier
    · obtain ⟨rfl, same⟩ := List.append_inj' last rfl
      exact .inr ⟨(List.singleton_inj.mp same).symm, answer⟩
    · exact .inl ⟨before, earlier, answer⟩
  · rintro (⟨before, earlier, answer⟩ | ⟨rfl, answer⟩)
    · exact ⟨before, earlier.trans (List.prefix_append calls [c]), answer⟩
    · exact ⟨calls, List.prefix_rfl, answer⟩

private theorem InStep.mem_edges_addEdge {g : IndexedGraph} (s : g.InStep) {d e : Edge} :
    e ∈ (g.addEdge d).1.edges ↔
      e ∈ g.edges ∨ d = e ∧ ∃ new, (g.addEdge e).2 = .ok new := by
  obtain ⟨m, -, eq⟩ | ⟨l, -, old, eq⟩ | ⟨l, named, -, eq⟩ := s.addEdge_cases d
  · rw [eq]
    constructor
    · exact .inl
    · rintro (he | ⟨rfl, new, answer⟩)
      · exact he
      · simp [eq] at answer
  · rw [eq]
    constructor
    · exact .inl
    · rintro (he | ⟨rfl, -⟩)
      · exact he
      · exact old
  · rw [eq, s.edges_pushLink named, List.mem_append, List.mem_singleton]
    constructor
    · rintro (he | rfl)
      · exact .inl he
      · exact .inr ⟨rfl, true, by rw [eq]⟩
    · rintro (he | ⟨rfl, -⟩)
      · exact .inl he
      · exact .inr rfl

private theorem InStep.mem_edges_call {g : IndexedGraph} (s : g.InStep) {c : GraphCall} {e : Edge} :
    e ∈ (g.call c).edges ↔
      e ∈ g.edges ∨ c = .step (.edge e) ∧ ∃ new, (g.addEdge e).2 = .ok new := by
  cases c with
  | takeDiagnostics =>
    simp only [reduceCtorEq, false_and, or_false]
    exact .rfl
  | step t =>
    cases t with
    | node n =>
      have edges : (g.call (.step (.node n))).edges = (g.toGraph.step (.node n)).edges := by
        rw [← s.toGraph_step]
        rfl
      rw [edges, Graph.step, Graph.addNode_edges]
      simp only [GraphCall.step.injEq, reduceCtorEq, false_and, or_false]
      exact .rfl
    | edge d =>
      simp only [GraphCall.step.injEq, GraphStep.edge.injEq]
      exact s.mem_edges_addEdge
    | note d =>
      simp only [GraphCall.step.injEq, reduceCtorEq, false_and, or_false]
      exact .rfl

private theorem mem_edges_after {unit : String} {calls : List GraphCall} {e : Edge} :
    e ∈ (after unit calls).edges ↔ Accepted unit calls e := by
  induction calls using List.reverseRecOn with
  | nil => simp [after, edges, Accepted]
  | append_singleton calls c ih =>
    rw [after_concat, (inStep_after unit calls).mem_edges_call, ih, accepted_concat]

end IndexedGraph

namespace Graph

/-! ### Fingerprints -/

private theorem edgeLe_total (a b : Edge) : (edgeLe a b || edgeLe b a) = true := by
  grind [edgeLe, String.le_total]

private theorem edgeLe_trans (a b c : Edge) (hab : edgeLe a b = true) (hbc : edgeLe b c = true) :
    edgeLe a c = true := by
  grind [edgeLe, String.le_trans, String.le_antisymm]

private theorem edgeLe_antisymm (a b : Edge) (hab : edgeLe a b = true) (hba : edgeLe b a = true) :
    a = b := by
  grind [edgeLe, String.le_antisymm, Relation.eq_of_rank, cases Edge]

end Graph

private theorem mergeSort_eq_iff {α : Type} {le : α → α → Bool}
    (trans : ∀ a b c, le a b = true → le b c = true → le a c = true)
    (total : ∀ a b, (le a b || le b a) = true)
    (antisymm : ∀ a b, le a b = true → le b a = true → a = b) {l m : List α} :
    l.mergeSort le = m.mergeSort le ↔ l.Perm m := by
  have perm : ∀ l : List α, (l.mergeSort le).Perm l := fun l => List.mergeSort_perm l le
  constructor
  · intro same
    exact (perm l).symm.trans (same ▸ perm m)
  · intro same
    refine List.Perm.eq_of_pairwise ?_ (List.pairwise_mergeSort trans total l)
      (List.pairwise_mergeSort trans total m) (((perm l).trans same).trans (perm m).symm)
    intro a b _ _ hab hba
    exact antisymm a b hab hba

namespace IndexedGraph

private theorem fingerprint_eq_iff {g h : IndexedGraph} (hg : g.edges.Nodup) (hh : h.edges.Nodup) :
    g.fingerprint = h.fingerprint ↔
      (∀ id, g.contains id = true ↔ h.contains id = true) ∧ ∀ e, e ∈ g.edges ↔ e ∈ h.edges := by
  rw [fingerprint, fingerprint, Prod.mk.injEq,
    mergeSort_eq_iff Graph.edgeLe_trans Graph.edgeLe_total Graph.edgeLe_antisymm,
    mergeSort_eq_iff (by simpa using fun a b c => String.le_trans)
      (by simpa using String.le_total) (by simpa using fun a b => String.le_antisymm),
    List.perm_ext_iff_of_nodup hg hh,
    List.perm_ext_iff_of_nodup Std.HashMap.nodup_keys Std.HashMap.nodup_keys]
  simp only [Std.HashMap.mem_keys]
  exact .rfl

/-- All that can be asked about a graph is answered from the same nodes and edges. -/
structure Consistent (g : IndexedGraph) : Prop where
  unique : (g.nodes.toList.map (·.id)).Nodup
  contains_iff : ∀ id, g.contains id = true ↔ ∃ n ∈ g.nodes.toList, n.id = id
  closed : ∀ e ∈ g.edges, (∃ n ∈ g.nodes.toList, n.id = e.source) ∧
    ∃ n ∈ g.nodes.toList, n.id = e.target
  once : g.edges.Nodup
  hasEdge_iff : ∀ e, g.hasEdge e = true ↔ e ∈ g.edges
  nodeCount_eq : g.nodeCount = g.nodes.toList.length
  edgeCount_eq : g.edgeCount = g.edges.length
  inDegree_eq : ∀ id, g.inDegree id = g.edges.countP (·.target = id)

private theorem consistent_after (unit : String) (calls : List GraphCall) :
    (after unit calls).Consistent := by
  have s := inStep_after unit calls
  obtain ⟨⟨unique, closed⟩, once⟩ := built_after unit calls
  simp only [Graph.contains_iff] at closed
  exact ⟨unique, fun _ => s.contains_iff, closed, once, fun _ => s.hasEdge_iff, rfl,
    s.edgeCount_eq, s.inDegree_eq⟩

private theorem addEdge_eq_error {g : IndexedGraph} {e : Edge} {m : MissingEndpoint} :
    (g.addEdge e).2 = .error m ↔ g.link e = .error m := by
  unfold addEdge
  split
  · rename_i missing
    simp [missing]
  · rename_i named
    split <;> simp [named]

private theorem contains_after {unit : String} {calls : List GraphCall} {id : NodeId} :
    (after unit calls).contains id = true ↔
      ∃ n ∈ GraphStep.made (GraphCall.steps calls), n.id = id := by
  have s := inStep_after unit calls
  have found : (after unit calls).contains id = true ↔ ((after unit calls).node? id).isSome := by
    simp only [s.contains_iff, Option.isSome_iff_exists, s.node?_eq_some]
  rw [found, node?_after, List.find?_isSome]
  simp only [decide_eq_true_eq]

/-- After any calls the indexes are in step: what is asked about the graph is answered from the same
nodes and edges. The first node of an id stays; an edge is refused exactly for the first of its
ends that is missing, and is new exactly once; and the fingerprint is that of the ids added and the
edges accepted. -/
theorem observers_in_step (unit : String) (calls : List GraphCall) :
    (after unit calls).Consistent ∧
    (∀ id, (after unit calls).node? id =
      (GraphStep.made (GraphCall.steps calls)).find? (·.id = id)) ∧
    (∀ e, e ∈ (after unit calls).edges ↔ Accepted unit calls e) ∧
    (∀ e m, ((after unit calls).addEdge e).2 = .error m ↔
      (after unit calls).contains e.source = false ∧ m.id = e.source ∨
      (after unit calls).contains e.source = true ∧
        (after unit calls).contains e.target = false ∧ m.id = e.target) ∧
    (∀ e, ((after unit calls).addEdge e).2 = .ok false ↔ e ∈ (after unit calls).edges) ∧
    (∀ e, ((after unit calls).addEdge e).2 ≠ .ok true →
      ((after unit calls).addEdge e).1 = after unit calls) ∧
    ∀ unit' calls', (after unit calls).fingerprint = (after unit' calls').fingerprint ↔
      (∀ id, (∃ n ∈ GraphStep.made (GraphCall.steps calls), n.id = id) ↔
        ∃ n ∈ GraphStep.made (GraphCall.steps calls'), n.id = id) ∧
      ∀ e, Accepted unit calls e ↔ Accepted unit' calls' e := by
  have s := inStep_after unit calls
  refine ⟨consistent_after unit calls, node?_after unit calls, fun _ => mem_edges_after, ?_, ?_, ?_,
    ?_⟩
  · intro e m
    rw [addEdge_eq_error, link_eq_error]
  · intro e
    obtain ⟨m, missing, eq⟩ | ⟨l, -, old, eq⟩ | ⟨l, -, new, eq⟩ := s.addEdge_cases e
    · simp [eq, s.mem_edges, missing]
    · simp [eq, old]
    · simp [eq, new]
  · intro e answer
    obtain ⟨m, -, eq⟩ | ⟨l, -, -, eq⟩ | ⟨l, -, -, eq⟩ := s.addEdge_cases e
    · rw [eq]
    · rw [eq]
    · simp [eq] at answer
  · intro unit' calls'
    rw [fingerprint_eq_iff (built_after unit calls).once (built_after unit' calls').once]
    simp only [contains_after, mem_edges_after]

end IndexedGraph

end SecretFlow

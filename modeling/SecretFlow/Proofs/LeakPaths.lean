import Mathlib.Data.List.Chain
import SecretFlow.Proofs.Liveness
import SecretFlow.Proofs.MiningSteps

set_option autoImplicit false
set_option relaxedAutoImplicit false

/-!
Mining is exact. It reports only leak paths, each once, and whenever no limit stops it, it reports
all of them: neither the order of the passes nor the nodes left out as dead hide a path.
-/

namespace SecretFlow

/-- A leak path of up to a number of edges: it goes along flow edges from a secret declaration to
the first terminal node it meets, and visits no node twice. -/
structure Graph.LeakPath (g : Graph) (limit : Nat) (path : List Node) : Prop where
  inGraph : ∀ n ∈ path, n ∈ g.nodes
  simple : (path.map (·.id)).Nodup
  starts : ∃ n, path.head? = some n ∧ n.kind = .secretDeclaration
  ends : ∃ n, path.getLast? = some n ∧ n.kind.isTerminal = true
  inner : ∀ n ∈ path.tail.dropLast, n.kind.isTerminal = false
  long : 2 ≤ path.length
  short : path.length ≤ limit + 1
  joined : path.IsChain fun a b => g.Flows a.id b.id

theorem Graph.LeakPath.mono {g : Graph} {limit more : Nat} {path : List Node}
    (leak : g.LeakPath limit path) (le : limit ≤ more) : g.LeakPath more path :=
  { leak with short := leak.short.trans (Nat.succ_le_succ le) }

@[simp] theorem Finding.ofPath_path (unit : String) (ids : List NodeId) (first last : Node) :
    (Finding.ofPath unit ids first last).path = ids := rfl

def Finding.Tells (g : Graph) (limit : Nat) (f : Finding) : Prop :=
  ∃ path first last, g.LeakPath limit path ∧ path.head? = some first ∧
    path.getLast? = some last ∧ f = .ofPath g.unit (path.map (·.id)) first last

theorem Finding.Tells.exists_source {g : Graph} {limit : Nat} {f : Finding}
    (tells : f.Tells g limit) :
    ∃ n ∈ g.nodes, n.kind = .secretDeclaration ∧ f.path.head? = some n.id := by
  obtain ⟨path, first, last, leak, _, _, rfl⟩ := tells
  obtain ⟨n, head, kind⟩ := leak.starts
  refine ⟨n, leak.inGraph n (List.mem_of_head? head), kind, ?_⟩
  rw [ofPath_path, List.head?_map, head, Option.map_some]

/-- What mining has found so far can be trusted: every finding tells of a leak path, none twice,
and unless a limit was hit no path that was met is left out. -/
structure Mining.Sound (g : Graph) (limit : Nat) (m : Mining) : Prop where
  told : ∀ f ∈ m.findings, f.Tells g limit
  once : (m.findings.toList.map (·.path)).Nodup
  noted : ∀ f ∈ m.findings, f.path ∈ m.seen
  kept : m.truncated = none → ∀ ids ∈ m.seen, ∃ f ∈ m.findings, f.path = ids

theorem Mining.sound_start (g : Graph) (limit : Nat) : ({} : Mining).Sound g limit where
  told := by simp
  once := by simp
  noted := by simp
  kept := by simp

/-- The walk that has come to a node after a path, last node first: it starts at a secret
declaration, has passed no terminal node, and has so many edges left. -/
structure Graph.Arrival (g : Graph) (limit room : Nat) (path : List Node) (node : Node) :
    Prop where
  inGraph : ∀ n ∈ node :: path, n ∈ g.nodes
  simple : (path.map (·.id)).Nodup
  starts : ∀ n, (node :: path).getLast? = some n → n.kind = .secretDeclaration
  passed : ∀ n ∈ path, n.kind.isTerminal = false
  joined : (node :: path).IsChain fun a b => g.Flows b.id a.id
  fits : path.length + room = limit

namespace Graph.Arrival

variable {g : Graph} {limit room : Nat} {path : List Node} {node : Node}

private theorem simple_cons (here : g.Arrival limit room path node)
    (fresh : path.any (·.id = node.id) = false) : ((node :: path).map (·.id)).Nodup := by
  rw [List.map_cons, List.nodup_cons]
  refine ⟨?_, here.simple⟩
  intro repeated
  obtain ⟨n, hn, same⟩ := List.mem_map.mp repeated
  have other := List.any_eq_false.mp fresh n hn
  simp [same] at other

theorem leakPath (here : g.Arrival limit room path node)
    (fresh : path.any (·.id = node.id) = false) (inside : path ≠ [])
    (terminal : node.kind.isTerminal = true) : g.LeakPath limit (node :: path).reverse where
  inGraph n hn := here.inGraph n (List.mem_reverse.mp hn)
  simple := by
    rw [List.map_reverse, List.nodup_reverse]
    exact here.simple_cons fresh
  starts := by
    have hlast := List.getLast?_eq_some_getLast (List.cons_ne_nil node path)
    exact ⟨_, by rw [List.head?_reverse]; exact hlast, here.starts _ hlast⟩
  ends := ⟨node, by simp, terminal⟩
  inner n hn := by
    rw [List.reverse_cons, ← List.tail_dropLast, List.dropLast_concat] at hn
    exact here.passed n (List.mem_reverse.mp (List.mem_of_mem_tail hn))
  long := by
    have := List.length_pos_of_ne_nil inside
    simp only [List.length_reverse, List.length_cons]
    omega
  short := by
    have := here.fits
    simp only [List.length_reverse, List.length_cons]
    omega
  joined := List.isChain_reverse.mpr here.joined

theorem next (wf : g.WellFormed) (here : g.Arrival limit (room + 1) path node)
    (fresh : path.any (·.id = node.id) = false)
    (passes : path = [] ∨ node.kind.isTerminal = false) {a : Node}
    (ha : a ∈ g.live.successors node.id) : g.Arrival limit room (node :: path) a := by
  have hnode : g.contains node.id :=
    contains_iff.mpr ⟨node, here.inGraph node List.mem_cons_self, rfl⟩
  obtain ⟨inGraph, flow, _⟩ := (mem_live_successors wf hnode).mp ha
  have fits := here.fits
  refine ⟨?_, here.simple_cons fresh, ?_, ?_, here.joined.cons_cons flow, ?_⟩
  · exact List.forall_mem_cons.mpr ⟨inGraph, here.inGraph⟩
  · intro n hn
    exact here.starts n (by simpa using hn)
  · refine List.forall_mem_cons.mpr ⟨?_, here.passed⟩
    rcases passes with rfl | passes
    · rw [here.starts node rfl]
      rfl
    · exact passes
  · simp only [List.length_cons]
    omega

theorem source {source : Node} (hsource : source ∈ g.live.sources) (edges : Nat) :
    g.Arrival edges edges [] source := by
  obtain ⟨hnode, declares, _⟩ := mem_live_sources.mp hsource
  refine ⟨?_, ?_, ?_, ?_, ?_, ?_⟩
  · simpa using hnode
  · exact List.nodup_nil
  · rintro n hn
    obtain rfl : source = n := by simpa using hn
    exact declares
  · simp
  · exact List.IsChain.singleton source
  · simp

end Graph.Arrival

namespace LiveGraph

private theorem sound_emit {g : Graph} {limits : MiningLimits} {limit : Nat} {node : Node}
    {path : List Node} {m : Mining} (leak : g.LeakPath limit (node :: path).reverse)
    (hm : m.Sound g limit) : (g.live.emit limits (node :: path) m).Sound g limit := by
  rcases emit_cases g.live limits node path m with
    ⟨_, eq⟩ | ⟨fresh, ⟨_, eq⟩ | ⟨first, hfirst, eq⟩⟩
  · rwa [eq]
  · rw [eq]
    refine ⟨hm.told, hm.once, ?_, fun whole => nomatch whole⟩
    intro f hf
    exact Std.HashSet.mem_insert.mpr (.inr (hm.noted f hf))
  · rw [eq]
    rw [← List.map_reverse] at fresh ⊢
    have tells : (Finding.ofPath g.unit ((node :: path).reverse.map (·.id)) first node).Tells
        g limit :=
      ⟨(node :: path).reverse, first, node, leak, by rw [List.head?_reverse]; exact hfirst,
        by simp, rfl⟩
    refine ⟨?_, ?_, ?_, ?_⟩
    · intro f hf
      rcases Array.mem_push.mp hf with hf | rfl
      · exact hm.told f hf
      · exact tells
    · simp only [Array.toList_push, List.map_append, List.map_singleton]
      refine hm.once.append (List.nodup_singleton _) ?_
      intro ids hids same
      obtain ⟨f, hf, rfl⟩ := List.mem_map.mp hids
      rw [List.mem_singleton, Finding.ofPath_path] at same
      exact fresh (same ▸ hm.noted f (Array.mem_toList_iff.mp hf))
    · intro f hf
      rw [Std.HashSet.mem_insert]
      rcases Array.mem_push.mp hf with hf | rfl
      · exact .inr (hm.noted f hf)
      · exact .inl (beq_self_eq_true _)
    · intro whole ids hids
      rcases Std.HashSet.mem_insert.mp hids with same | old
      · exact ⟨_, Array.mem_push_self, beq_iff_eq.mp same⟩
      · obtain ⟨f, hf, same⟩ := hm.kept whole ids old
        exact ⟨f, Array.mem_push_of_mem _ hf, same⟩

private theorem sound_visit {g : Graph} (wf : g.WellFormed) {limits : MiningLimits}
    {limit bound room : Nat} (le : limit ≤ bound) {path : List Node} {m : Mining} {node : Node}
    (here : g.Arrival limit room path node) (hm : m.Sound g bound) :
    (g.live.visit limits room path m node).Sound g bound := by
  refine visit_preserves (P := Mining.Sound g bound) (C := g.Arrival limit) ?_ ?_ ?_ ?_
    room path m node here hm
  · intro a ha
    exact ⟨ha.told, ha.once, ha.noted, fun whole => nomatch whole⟩
  · intro a ha
    exact ⟨ha.told, ha.once, ha.noted, ha.kept⟩
  · intro _ _ a _ arrival fresh inside terminal ha
    exact sound_emit ((arrival.leakPath fresh inside terminal).mono le) ha
  · intro _ _ _ arrival fresh passes a ha
    exact arrival.next wf fresh passes ha

theorem sound_pass {g : Graph} (wf : g.WellFormed) {limits : MiningLimits} {edges bound : Nat}
    (le : edges ≤ bound) {m : Mining} (hm : m.Sound g bound) :
    (g.live.pass limits m edges).Sound g bound :=
  List.foldlRecOn _ _ hm fun _ ha _ hsource => sound_visit wf le (.source hsource edges) ha

theorem sound_passes {g : Graph} (wf : g.WellFormed) {limits : MiningLimits} {bound : Nat}
    {depths : List Nat} (le : ∀ edges ∈ depths, edges ≤ bound) {m : Mining}
    (hm : m.Sound g bound) : (depths.foldl (g.live.pass limits) m).Sound g bound :=
  List.foldlRecOn _ _ hm fun _ ha edges hedges => sound_pass wf (le edges hedges) ha

end LiveGraph

namespace Graph.LeakPath

variable {g : Graph} {limit : Nat}

private theorem live_of_joined (wf : g.WellFormed) {path : List Node}
    (inGraph : ∀ n ∈ path, n ∈ g.nodes) (joined : path.IsChain fun a b => g.Flows a.id b.id)
    (ends : ∃ n, path.getLast? = some n ∧ n.kind.isTerminal = true) :
    ∀ n ∈ path, n.id ∈ g.reachingTerminals := by
  induction path with
  | nil => simp
  | cons a rest ih =>
    cases rest with
    | nil =>
      obtain ⟨n, hn, terminal⟩ := ends
      obtain rfl : a = n := by simpa using hn
      simpa using terminal_mem_reachingTerminals wf (inGraph a (by simp)) terminal
    | cons b rest =>
      rw [List.isChain_cons_cons] at joined
      have alive := ih (fun n hn => inGraph n (List.mem_cons_of_mem _ hn)) joined.2
        (by simpa using ends)
      exact List.forall_mem_cons.mpr
        ⟨flows_mem_reachingTerminals wf joined.1 (alive b (by simp)), alive⟩

private theorem live (wf : g.WellFormed) {path : List Node} (leak : g.LeakPath limit path) :
    ∀ n ∈ path, n.id ∈ g.reachingTerminals :=
  live_of_joined wf leak.inGraph leak.joined leak.ends

private theorem fresh {path rest : List Node} {node : Node}
    (leak : g.LeakPath limit (path.reverse ++ node :: rest)) :
    path.any (·.id = node.id) = false := by
  rw [List.any_eq_false]
  intro n hn same
  have distinct := leak.simple
  rw [List.map_append, List.nodup_append] at distinct
  exact distinct.2.2 n.id (List.mem_map_of_mem (List.mem_reverse.mpr hn)) node.id (by simp)
    (of_decide_eq_true same)

private theorem passes {path rest : List Node} {node next : Node}
    (leak : g.LeakPath limit (path.reverse ++ node :: next :: rest)) :
    path = [] ∨ node.kind.isTerminal = false := by
  rcases eq_or_ne path [] with empty | inside
  · exact .inl empty
  · refine .inr (leak.inner node ?_)
    rw [List.tail_append_of_ne_nil (by simpa using inside),
      List.dropLast_append_of_ne_nil (List.cons_ne_nil _ _), List.dropLast_cons_cons]
    simp

end Graph.LeakPath

namespace LiveGraph

/-- A visit that no limit stops meets every leak path that goes on from it. -/
private theorem visit_meets {g : Graph} (wf : g.WellFormed) {limits : MiningLimits} {limit : Nat}
    (rest path : List Node) (node : Node) (room : Nat) (m : Mining)
    (leak : g.LeakPath limit (path.reverse ++ node :: rest)) (fits : path.length + room = limit)
    (whole : (g.live.visit limits room path m node).truncated = none) :
    (path.reverse ++ node :: rest).map (·.id) ∈ (g.live.visit limits room path m node).seen := by
  have active := (grows_visit g.live limits room path m node).active whole
  have fresh := leak.fresh
  -- by induction on what is left of the path; each edge of it uses up one of the edges left
  induction rest generalizing path node room m with
  | nil =>
    obtain ⟨n, hn, terminal⟩ := leak.ends
    obtain rfl : node = n := by simpa using hn
    have inside : path ≠ [] := by
      have long := leak.long
      rintro rfl
      simp at long
    rw [visit_of_terminal active fresh inside terminal]
    exact mem_emit_seen.mpr (.inl (by simp))
  | cons next rest ih =>
    have short := leak.short
    simp only [List.length_append, List.length_reverse, List.length_cons] at short
    obtain ⟨less, rfl⟩ : ∃ less, room = less + 1 := ⟨room - 1, by omega⟩
    have hnode : g.contains node.id :=
      Graph.contains_iff.mpr ⟨node, leak.inGraph node (by simp), rfl⟩
    have joined := (List.isChain_append.mp leak.joined).2.1
    have alive : next ∈ g.live.successors node.id :=
      (Graph.mem_live_successors wf hnode).mpr ⟨leak.inGraph next (by simp),
        (List.isChain_cons_cons.mp joined).1, leak.live wf next (by simp)⟩
    rw [visit_succ active fresh leak.passes] at whole ⊢
    refine foldl_meets (grows_follow g.live limits less (node :: path)) alive ?_ m whole
    intro a hwhole
    unfold follow at hwhole ⊢
    split at hwhole
    · cases hwhole
    · rename_i allowed
      rw [if_neg allowed]
      have onward : path.reverse ++ node :: next :: rest =
          (node :: path).reverse ++ next :: rest := by simp
      rw [onward] at leak ⊢
      exact ih (node :: path) next less _ leak (by simp only [List.length_cons]; omega) hwhole
        ((grows_visit g.live limits less (node :: path) _ next).active hwhole) leak.fresh

theorem pass_meets {g : Graph} (wf : g.WellFormed) {limits : MiningLimits} {edges : Nat}
    {path : List Node} (leak : g.LeakPath edges path) (m : Mining)
    (whole : (g.live.pass limits m edges).truncated = none) :
    path.map (·.id) ∈ (g.live.pass limits m edges).seen := by
  obtain ⟨source, hhead, declares⟩ := leak.starts
  obtain ⟨rest, rfl⟩ : ∃ rest, path = source :: rest :=
    ⟨path.tail, (List.cons_head?_tail hhead).symm⟩
  have hsource : source ∈ g.live.sources :=
    Graph.mem_live_sources.mpr ⟨leak.inGraph source (by simp), declares,
      leak.live wf source (by simp)⟩
  exact foldl_meets (grows_visit g.live limits edges []) hsource
    (fun a => visit_meets wf rest [] source edges a leak (by simp)) m whole

end LiveGraph

theorem MiningLimits.le_of_mem_passes {limits : MiningLimits} {edges : Nat}
    (hedges : edges ∈ limits.passes) : edges ≤ limits.pathEdges := by
  simp only [passes, List.mem_append, List.mem_filter, decide_eq_true_eq,
    List.mem_singleton] at hedges
  omega

namespace Graph

private def minedState (g : Graph) (limits : MiningLimits) : Mining :=
  limits.passes.foldl (g.live.pass limits) {}

private theorem sound_minedState {g : Graph} (wf : g.WellFormed) (limits : MiningLimits) :
    (g.minedState limits).Sound g limits.pathEdges :=
  LiveGraph.sound_passes wf (fun _ => MiningLimits.le_of_mem_passes)
    (Mining.sound_start g limits.pathEdges)

theorem tells_of_mem_mine {g : Graph} (wf : g.WellFormed) {limits : MiningLimits} {f : Finding}
    (hf : f ∈ (g.mine limits).findings) : f.Tells g limits.pathEdges :=
  (sound_minedState wf limits).told f (Array.mem_toList_iff.mp hf)

theorem nodup_mine {g : Graph} (wf : g.WellFormed) (limits : MiningLimits) :
    ((g.mine limits).findings.map (·.path)).Nodup :=
  (sound_minedState wf limits).once

/-- Mining that no limit stops reports every leak path. -/
theorem exists_mem_mine {g : Graph} (wf : g.WellFormed) {limits : MiningLimits}
    (whole : (g.mine limits).truncated = none) {path : List Node}
    (leak : g.LeakPath limits.pathEdges path) :
    ∃ f ∈ (g.mine limits).findings, f.path = path.map (·.id) := by
  have last : limits.pathEdges ∈ limits.passes := by simp [MiningLimits.passes]
  have met : path.map (·.id) ∈ (g.minedState limits).seen :=
    LiveGraph.foldl_meets (LiveGraph.grows_pass g.live limits) last
      (LiveGraph.pass_meets wf leak) {} whole
  obtain ⟨f, hf, same⟩ := (sound_minedState wf limits).kept whole _ met
  exact ⟨f, Array.mem_toList_iff.mpr hf, same⟩

private theorem WellFormed.path_eq_of_ids {g : Graph} (wf : g.WellFormed) {a b : List Node}
    (ha : ∀ n ∈ a, n ∈ g.nodes) (hb : ∀ n ∈ b, n ∈ g.nodes)
    (same : a.map (·.id) = b.map (·.id)) : a = b := by
  have nodes {path : List Node} (inGraph : ∀ n ∈ path, n ∈ g.nodes) :
      (path.map (·.id)).map g.node? = path.map some := by
    rw [List.map_map]
    exact List.map_congr_left fun n hn => wf.node?_eq_some.mpr ⟨inGraph n hn, rfl⟩
  have somes : a.map some = b.map some := by rw [← nodes ha, ← nodes hb, same]
  exact List.map_injective_iff.mpr (fun _ _ eq => Option.some.inj eq) somes

/-- The findings of mining that no limit stops are those that tell of leak paths. -/
theorem mem_mine_iff {g : Graph} (wf : g.WellFormed) {limits : MiningLimits}
    (whole : (g.mine limits).truncated = none) {f : Finding} :
    f ∈ (g.mine limits).findings ↔ f.Tells g limits.pathEdges := by
  constructor
  · exact tells_of_mem_mine wf
  · rintro ⟨path, first, last, leak, hfirst, hlast, rfl⟩
    obtain ⟨f, hf, same⟩ := exists_mem_mine wf whole leak
    obtain ⟨other, first', last', leak', hfirst', hlast', rfl⟩ := tells_of_mem_mine wf hf
    obtain rfl := wf.path_eq_of_ids leak'.inGraph leak.inGraph same
    rw [hfirst, Option.some_inj] at hfirst'
    rw [hlast, Option.some_inj] at hlast'
    rwa [hfirst', hlast']

/-- Mining is exact on every graph that can be built: each finding has a leak path, no path is
reported twice, and if no limit was hit every leak path is reported. -/
theorem mine_exact (unit : String) (steps : List GraphStep) (limits : MiningLimits) :
    let g := ({ unit := unit } : Graph).run steps
    (∀ f ∈ (g.mine limits).findings,
      ∃ path, g.LeakPath limits.pathEdges path ∧ f.path = path.map (·.id)) ∧
    ((g.mine limits).findings.map (·.path)).Nodup ∧
    ((g.mine limits).truncated = none → ∀ path, g.LeakPath limits.pathEdges path →
      ∃ f ∈ (g.mine limits).findings, f.path = path.map (·.id)) := by
  intro g
  have wf : g.WellFormed := wellFormed_run (wellFormed_empty unit) steps
  refine ⟨?_, nodup_mine wf limits, fun whole path leak => exists_mem_mine wf whole leak⟩
  intro f hf
  obtain ⟨path, first, last, leak, _, _, rfl⟩ := tells_of_mem_mine wf hf
  exact ⟨path, leak, rfl⟩

end Graph

end SecretFlow

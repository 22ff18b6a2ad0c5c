import SecretFlow.Proofs.LeakPaths
import SecretFlow.Proofs.LivePart

set_option autoImplicit false
set_option relaxedAutoImplicit false

/-!
Parts of a graph that no secret leaves. Mining such a part costs no more than mining the whole
graph, and finds exactly those leak paths of the whole that start in the part.
-/

namespace SecretFlow

/-- A run of mining that looks only for what starts inside a set of ids lags behind one that looks
for more: it has not done or found more, and has met every path that starts inside. -/
structure Mining.Lags (S : NodeId → Bool) (m longer : Mining) : Prop where
  active : m.truncated = none
  explored : m.explored ≤ longer.explored
  findings : m.findings.size ≤ longer.findings.size
  met : ∀ ids ∈ longer.seen, ids.head?.any S = true → ids ∈ m.seen

namespace LiveGraph

variable {g : LiveGraph} {limits : MiningLimits} {S : NodeId → Bool}

private theorem foldl_lags {α : Type} {f h : Mining → α → Mining} {items : List α}
    (grows : ∀ (m : Mining) (a : α), m.Grows (h m a))
    (step : ∀ a ∈ items, ∀ m longer : Mining, m.Lags S longer → (h longer a).truncated = none →
      (f m a).Lags S (h longer a))
    {m longer : Mining} (lags : m.Lags S longer) (whole : (items.foldl h longer).truncated = none) :
    (items.foldl f m).Lags S (items.foldl h longer) := by
  induction items generalizing m longer with
  | nil => exact lags
  | cons a rest ih =>
    rw [List.foldl_cons] at whole ⊢
    have active := (grows_foldl grows rest (h longer a)).active whole
    exact ih (fun b hb => step b (List.mem_cons_of_mem _ hb))
      (step a List.mem_cons_self m longer lags active) whole

private theorem head?_reverse_ids {node first : Node} {path : List Node}
    (hfirst : (node :: path).getLast? = some first) :
    ((node :: path).map (·.id)).reverse.head? = some first.id := by
  rw [List.head?_reverse, List.getLast?_map, hfirst, Option.map_some]

private theorem emit_lags {node : Node} {path : List Node} {m longer : Mining}
    (start : ∀ n, (node :: path).getLast? = some n → S n.id = true) (lags : m.Lags S longer)
    (whole : (g.emit limits (node :: path) longer).truncated = none) :
    (g.emit limits (node :: path) m).Lags S (g.emit limits (node :: path) longer) := by
  by_cases known : ((node :: path).map (·.id)).reverse ∈ longer.seen
  · have hfirst := List.getLast?_eq_some_getLast (List.cons_ne_nil node path)
    have met := lags.met _ known (by rw [head?_reverse_ids hfirst]; exact start _ hfirst)
    rwa [g.emit_of_known known, g.emit_of_known met]
  · have room : longer.findings.size < limits.findings := by
      by_contra full
      rw [g.emit_of_full known (Nat.not_lt.mp full)] at whole
      cases whole
    obtain ⟨first, hfirst, pushed⟩ := g.emit_of_fresh known room
    have fewer := lags.findings
    rw [pushed]
    by_cases old : ((node :: path).map (·.id)).reverse ∈ m.seen
    · rw [g.emit_of_known old]
      refine ⟨lags.active, lags.explored, ?_, ?_⟩
      · simp only [Array.size_push]
        omega
      · intro ids hids inside
        rcases Std.HashSet.mem_insert.mp hids with same | earlier
        · exact beq_iff_eq.mp same ▸ old
        · exact lags.met ids earlier inside
    · obtain ⟨_, _, eq⟩ := g.emit_of_fresh old (lags.findings.trans_lt room)
      rw [eq]
      refine ⟨lags.active, lags.explored, ?_, ?_⟩
      · simp only [Array.size_push]
        omega
      · intro ids hids inside
        rw [Std.HashSet.mem_insert] at hids ⊢
        rcases hids with same | earlier
        · exact .inl same
        · exact .inr (lags.met ids earlier inside)

private theorem follow_lags {room : Nat} {path : List Node} {next : Node} {m longer : Mining}
    (visits : ∀ m longer : Mining, m.Lags S longer →
      (g.visit limits room path longer next).truncated = none →
      (g.visit limits room path m next).Lags S (g.visit limits room path longer next))
    (lags : m.Lags S longer) (whole : (g.follow limits room path longer next).truncated = none) :
    (g.follow limits room path m next).Lags S (g.follow limits room path longer next) := by
  unfold follow at whole ⊢
  by_cases worn : limits.exploredEdges ≤ longer.explored
  · rw [if_pos worn] at whole
    cases whole
  · have less := lags.explored
    have fresh : ¬ limits.exploredEdges ≤ m.explored := by omega
    rw [if_neg worn] at whole ⊢
    rw [if_neg fresh]
    refine visits _ _ ⟨lags.active, ?_, lags.findings, lags.met⟩ whole
    simp only
    omega

private theorem visit_lags_of_turns {room : Nat} {path : List Node} {node : Node}
    {m longer : Mining} (start : ∀ n, (node :: path).getLast? = some n → S n.id = true)
    (lags : m.Lags S longer) (active : longer.truncated = none)
    (turns : ∀ less, room = less + 1 →
      ((g.successors node.id).foldl (g.follow limits less (node :: path)) longer).truncated = none →
      ((g.successors node.id).foldl (g.follow limits less (node :: path)) m).Lags S
        ((g.successors node.id).foldl (g.follow limits less (node :: path)) longer))
    (whole : (g.visit limits room path longer node).truncated = none) :
    (g.visit limits room path m node).Lags S (g.visit limits room path longer node) := by
  -- neither run is stopped, so a visit takes the same branch in both
  simp only [visit_of_active active, visit_of_active lags.active] at whole ⊢
  by_cases visited : path.any (·.id = node.id) = true
  · simpa only [visited, if_true] using lags
  · by_cases ends : (!path.isEmpty && node.kind.isTerminal) = true
    · simp only [visited, ends, Bool.false_eq_true, if_false, if_true] at whole ⊢
      exact emit_lags start lags whole
    · simp only [visited, ends, Bool.false_eq_true, if_false] at whole ⊢
      cases room with
      | zero => exact lags
      | succ less => exact turns less rfl whole

private theorem visit_lags (room : Nat) (path : List Node) (node : Node) (m longer : Mining)
    (start : ∀ n, (node :: path).getLast? = some n → S n.id = true) (lags : m.Lags S longer)
    (whole : (g.visit limits room path longer node).truncated = none) :
    (g.visit limits room path m node).Lags S (g.visit limits room path longer node) := by
  have active := (grows_visit g limits room path longer node).active whole
  induction room generalizing path node m longer with
  | zero => exact visit_lags_of_turns start lags active (fun _ none => nomatch none) whole
  | succ room ih =>
    refine visit_lags_of_turns start lags active ?_ whole
    intro less eq hturns
    obtain rfl : room = less := by omega
    refine foldl_lags (grows_follow g limits room (node :: path)) ?_ lags hturns
    intro next _ a b hab hfollow
    refine follow_lags (fun a b hab hvisit => ih (node :: path) next a b ?_ hab hvisit
      ((grows_visit g limits room (node :: path) b next).active hvisit)) hab hfollow
    intro n hn
    exact start n (by simpa using hn)

private theorem lags_visit {room : Nat} {path : List Node} {node : Node} {m longer : Mining}
    (start : ∀ n, (node :: path).getLast? = some n → S n.id = false) (lags : m.Lags S longer)
    (whole : (g.visit limits room path longer node).truncated = none) :
    m.Lags S (g.visit limits room path longer node) := by
  -- a visit that the shorter run leaves out, because it starts outside
  refine visit_preserves (P := fun a => a.truncated = none → m.Lags S a)
    (C := fun _ path node => ∀ n, (node :: path).getLast? = some n → S n.id = false)
    ?_ ?_ ?_ ?_ room path longer node start (fun _ => lags) whole
  · intro a _ stopped
    cases stopped
  · intro a ha active
    have behind := ha active
    exact ⟨behind.active, Nat.le_succ_of_le behind.explored, behind.findings, behind.met⟩
  · intro _ path a node outside _ _ _ ha active
    have behind := ha (emit_active active)
    rcases emit_cases g limits node path a with ⟨_, eq⟩ | ⟨_, ⟨_, eq⟩ | ⟨first, hfirst, eq⟩⟩
    · rwa [eq]
    · rw [eq] at active
      cases active
    · rw [eq]
      refine ⟨behind.active, behind.explored, ?_, ?_⟩
      · simp only [Array.size_push]
        exact Nat.le_succ_of_le behind.findings
      · intro ids hids inside
        rcases Std.HashSet.mem_insert.mp hids with same | earlier
        · rw [← beq_iff_eq.mp same, head?_reverse_ids hfirst, Option.any_some,
            outside first hfirst] at inside
          cases inside
        · exact behind.met ids earlier inside
  · intro _ path node outside _ _ a _ n hn
    exact outside n (by simpa using hn)

private theorem pass_lags {part : LiveGraph}
    (sources : part.sources = g.sources.filter fun n => S n.id)
    (visits : ∀ n ∈ part.sources, ∀ edges m,
      part.visit limits edges [] m n = g.visit limits edges [] m n)
    {m longer : Mining} {edges : Nat} (lags : m.Lags S longer)
    (whole : (g.pass limits longer edges).truncated = none) :
    (part.pass limits m edges).Lags S (g.pass limits longer edges) := by
  have same : part.pass limits m edges = g.sources.foldl
      (fun a n => if S n.id then g.visit limits edges [] a n else a) m := by
    rw [← List.foldl_filter, ← sources]
    exact List.foldl_ext _ _ _ fun a n hn => visits n hn edges a
  rw [same]
  refine foldl_lags (grows_visit g limits edges []) ?_ lags whole
  intro n _ a b hab hwhole
  cases inside : S n.id with
  | true => exact visit_lags edges [] n a b (by simpa using inside) hab hwhole
  | false => exact lags_visit (by simpa using inside) hab hwhole

end LiveGraph

namespace Graph

/-- What the first graph has inside a set of ids, the second has too, and the flow of the first
does not leave the set. -/
structure MatchedBy (S : NodeId → Bool) (g h : Graph) : Prop where
  nodes : ∀ n ∈ g.nodes, S n.id = true → n ∈ h.nodes
  edges : ∀ e ∈ g.edges, e.relation.isFlow = true → S e.source = true →
    e ∈ h.edges ∧ S e.target = true

namespace MatchedBy

variable {S : NodeId → Bool} {g h : Graph}

private theorem flows (matched : g.MatchedBy S h) {a b : NodeId} (inside : S a = true)
    (flow : g.Flows a b) : h.Flows a b ∧ S b = true := by
  obtain ⟨r, hr, he⟩ := flow
  have kept := matched.edges _ he hr inside
  exact ⟨⟨r, hr, kept.1⟩, kept.2⟩

private theorem leads (matched : g.MatchedBy S h) {id : NodeId} (inside : S id = true)
    (leads : g.Leads id) : h.Leads id := by
  obtain ⟨t, ht, terminal, path⟩ := leads
  induction path using Relation.ReflTransGen.head_induction_on with
  | refl => exact ⟨t, matched.nodes t ht inside, terminal, .refl⟩
  | head flow _ ih =>
    have next := matched.flows inside flow
    exact .of_flows next.1 (ih next.2)

private theorem chain (matched : g.MatchedBy S h) {path : List Node}
    (start : ∀ n, path.head? = some n → S n.id = true)
    (joined : path.IsChain fun a b => g.Flows a.id b.id) :
    (∀ n ∈ path, S n.id = true) ∧ path.IsChain fun a b => h.Flows a.id b.id := by
  induction path with
  | nil => exact ⟨by simp, List.IsChain.nil⟩
  | cons a rest ih =>
    have inside := start a rfl
    cases rest with
    | nil => exact ⟨by simpa using inside, List.IsChain.singleton a⟩
    | cons b rest =>
      rw [List.isChain_cons_cons] at joined
      have next := matched.flows inside joined.1
      have later := ih (by simpa using next.2) joined.2
      exact ⟨List.forall_mem_cons.mpr ⟨inside, later.1⟩, later.2.cons_cons next.1⟩

private theorem leakPath (matched : g.MatchedBy S h) {limit : Nat} {path : List Node}
    (leak : g.LeakPath limit path) (start : ∀ n, path.head? = some n → S n.id = true) :
    h.LeakPath limit path := by
  have kept := matched.chain start leak.joined
  exact { leak with
    inGraph := fun n hn => matched.nodes n (leak.inGraph n hn) (kept.1 n hn)
    joined := kept.2 }

private theorem tells (matched : g.MatchedBy S h) (unit : g.unit = h.unit) {limit : Nat}
    {f : Finding}
    (tells : f.Tells g limit) (start : f.path.head?.any S = true) : f.Tells h limit := by
  obtain ⟨path, first, last, leak, hfirst, hlast, rfl⟩ := tells
  rw [Finding.ofPath_path, List.head?_map, hfirst] at start
  refine ⟨path, first, last, matched.leakPath leak ?_, hfirst, hlast, by rw [unit]⟩
  rw [hfirst]
  rintro n ⟨⟩
  exact start

end MatchedBy

/-- A part of a graph that no secret leaves, and in which every secret is declared inside a set of
ids. -/
structure ClosedPart (S : NodeId → Bool) (part whole : Graph) : Prop where
  unit : part.unit = whole.unit
  up : part.MatchedBy S whole
  down : whole.MatchedBy S part
  sources : ∀ n ∈ part.nodes, n.kind = .secretDeclaration → S n.id = true

namespace ClosedPart

variable {S : NodeId → Bool} {part whole : Graph}

private theorem successors_eq (closed : part.ClosedPart S whole) (hp : part.Built)
    (hw : whole.Built) {n : Node} (hn : n ∈ part.nodes) (inside : S n.id = true) :
    part.live.successors n.id = whole.live.successors n.id := by
  have other := closed.up.nodes n hn inside
  rw [live_successors_eq (contains_iff.mpr ⟨n, hn, rfl⟩),
    live_successors_eq (contains_iff.mpr ⟨n, other, rfl⟩)]
  refine liveSuccessors_congr hp hw ?_
  intro r a
  rw [hp.mem_successors, hw.mem_successors, mem_reachingTerminals hp.toWellFormed,
    mem_reachingTerminals hw.toWellFormed]
  constructor
  · rintro ⟨⟨flow, he, ha⟩, leads⟩
    have kept := closed.up.edges _ he flow inside
    exact ⟨⟨flow, kept.1, closed.up.nodes a ha kept.2⟩, closed.up.leads kept.2 leads⟩
  · rintro ⟨⟨flow, he, ha⟩, leads⟩
    have kept := closed.down.edges _ he flow inside
    exact ⟨⟨flow, kept.1, closed.down.nodes a ha kept.2⟩, closed.down.leads kept.2 leads⟩

private theorem sources_eq (closed : part.ClosedPart S whole) (hp : part.Built) (hw : whole.Built) :
    part.live.sources = whole.live.sources.filter fun n => S n.id := by
  refine hp.eq_of_idLe ?_ hp.nodup_live_sources (hw.nodup_live_sources.filter _)
    part.pairwise_live_sources (whole.pairwise_live_sources.filter _) ?_
  · intro n hn
    exact (mem_live_sources.mp hn).1
  · intro n
    rw [List.mem_filter, mem_live_sources, mem_live_sources, mem_reachingTerminals hp.toWellFormed,
      mem_reachingTerminals hw.toWellFormed]
    constructor
    · rintro ⟨hn, declares, leads⟩
      have inside := closed.sources n hn declares
      exact ⟨⟨closed.up.nodes n hn inside, declares, closed.up.leads inside leads⟩, inside⟩
    · rintro ⟨⟨hn, declares, leads⟩, inside⟩
      exact ⟨closed.down.nodes n hn inside, declares, closed.down.leads inside leads⟩

private theorem visit_eq (closed : part.ClosedPart S whole) (hp : part.Built) (hw : whole.Built)
    {limits : MiningLimits} {n : Node} (hn : n ∈ part.live.sources) (edges : Nat) (m : Mining) :
    part.live.visit limits edges [] m n = whole.live.visit limits edges [] m n := by
  obtain ⟨hnode, declares, _⟩ := mem_live_sources.mp hn
  refine LiveGraph.visit_congr (S := fun id => ∃ a ∈ part.nodes, a.id = id ∧ S id = true)
    closed.unit ?_ ?_ edges [] m n ⟨n, hnode, rfl, closed.sources n hnode declares⟩
  · rintro id ⟨a, ha, rfl, inside⟩
    exact closed.successors_eq hp hw ha inside
  · rintro id ⟨a, ha, rfl, inside⟩ b hb
    have next := (mem_live_successors hp.toWellFormed (contains_iff.mpr ⟨a, ha, rfl⟩)).mp hb
    exact ⟨b, next.1, rfl, (closed.up.flows inside next.2.1).2⟩

theorem truncated_mine (closed : part.ClosedPart S whole) (hp : part.Built) (hw : whole.Built)
    {limits : MiningLimits} (untouched : (whole.mine limits).truncated = none) :
    (part.mine limits).truncated = none := by
  have start : ({} : Mining).Lags S {} := ⟨rfl, le_rfl, le_rfl, by simp⟩
  have lags := LiveGraph.foldl_lags (LiveGraph.grows_pass whole.live limits)
    (fun edges _ m longer hm hwhole => LiveGraph.pass_lags
      (closed.sources_eq hp hw) (fun n hn => closed.visit_eq hp hw hn) hm hwhole) start untouched
  exact lags.active

/-- Mining the part finds what mining the whole finds from inside. -/
theorem mem_mine_iff (closed : part.ClosedPart S whole) (hp : part.Built) (hw : whole.Built)
    {limits : MiningLimits} (untouched : (whole.mine limits).truncated = none) {f : Finding} :
    f ∈ (part.mine limits).findings ↔
      f ∈ (whole.mine limits).findings ∧ f.path.head?.any S = true := by
  rw [Graph.mem_mine_iff hp.toWellFormed (closed.truncated_mine hp hw untouched),
    Graph.mem_mine_iff hw.toWellFormed untouched]
  constructor
  · intro tells
    obtain ⟨n, hn, declares, head⟩ := tells.exists_source
    have inside : f.path.head?.any S = true := by
      rw [head]
      exact closed.sources n hn declares
    exact ⟨closed.up.tells closed.unit tells inside, inside⟩
  · rintro ⟨tells, inside⟩
    exact closed.down.tells closed.unit.symm tells inside

end ClosedPart

end Graph

end SecretFlow

import SecretFlow.Proofs.StrongestFirst

set_option autoImplicit false
set_option relaxedAutoImplicit false

/-!
The limits of mining are honest and monotone. Mining stays within its limits, and if one of them is
reported then it was reached: there was a leak path too many, or no edge left to explore. Wider
limits only add findings, behind those that there are, and change nothing where no limit was hit.
-/

namespace SecretFlow

structure Mining.Honest (g : Graph) (limits : MiningLimits) (m : Mining) : Prop where
  findings : m.findings.size ≤ limits.findings
  explored : m.explored ≤ limits.exploredEdges
  noted : ∀ f ∈ m.findings, f.path ∈ m.seen
  /-- If there were too many findings, a leak path was left out. -/
  full : m.truncated = some .findings → m.findings.size = limits.findings ∧
    ∃ path, g.LeakPath limits.pathEdges path ∧ ∀ f ∈ m.findings, f.path ≠ path.map (·.id)
  worn : m.truncated = some .work → m.explored = limits.exploredEdges

private theorem Mining.honest_start (g : Graph) (limits : MiningLimits) :
    ({} : Mining).Honest g limits where
  findings := Nat.zero_le _
  explored := Nat.zero_le _
  noted := by simp
  full := fun hit => nomatch hit
  worn := fun hit => nomatch hit

namespace LiveGraph

private theorem honest_emit {g : Graph} {limits : MiningLimits} {node : Node} {path : List Node}
    {m : Mining} (active : m.truncated = none)
    (leak : g.LeakPath limits.pathEdges (node :: path).reverse) (hm : m.Honest g limits) :
    (g.live.emit limits (node :: path) m).Honest g limits := by
  by_cases known : ((node :: path).map (·.id)).reverse ∈ m.seen
  · rwa [g.live.emit_of_known known]
  · have within := hm.findings
    by_cases full : limits.findings ≤ m.findings.size
    · rw [g.live.emit_of_full known full]
      refine ⟨within, hm.explored, ?_, fun _ => ⟨Nat.le_antisymm within full, _, leak, ?_⟩,
        fun hit => nomatch hit⟩
      · intro f hf
        exact Std.HashSet.mem_insert.mpr (.inr (hm.noted f hf))
      · intro f hf same
        rw [List.map_reverse] at same
        exact known (same ▸ hm.noted f hf)
    · obtain ⟨first, _, eq⟩ := g.live.emit_of_fresh known (Nat.not_le.mp full)
      rw [eq]
      have going {t : Truncation} (hit : m.truncated = some t) : False := by
        rw [active] at hit
        cases hit
      refine ⟨?_, hm.explored, ?_, fun hit => (going hit).elim, fun hit => (going hit).elim⟩
      · simp only [Array.size_push]
        omega
      · intro f hf
        rw [Std.HashSet.mem_insert]
        rcases Array.mem_push.mp hf with old | rfl
        · exact .inr (hm.noted f old)
        · exact .inl (beq_self_eq_true _)

private theorem honest_visit {g : Graph} (wf : g.WellFormed) {limits : MiningLimits}
    {limit room : Nat} (le : limit ≤ limits.pathEdges) {path : List Node} {m : Mining} {node : Node}
    (here : g.Arrival limit room path node) (hm : m.Honest g limits) :
    (g.live.visit limits room path m node).Honest g limits := by
  refine visit_keeps (P := Mining.Honest g limits) (C := g.Arrival limit) ?_ ?_ ?_ ?_
    room path m node here hm
  · intro a worn ha
    have within := ha.explored
    exact ⟨ha.findings, within, ha.noted, fun hit => (nomatch hit),
      fun _ => Nat.le_antisymm within worn⟩
  · intro a allowed ha
    refine ⟨ha.findings, allowed, ha.noted, ha.full, ?_⟩
    -- no edge is explored once the work limit was hit
    intro hit
    have worn := ha.worn hit
    omega
  · intro _ _ a _ active arrival fresh inside terminal ha
    exact honest_emit active ((arrival.leakPath fresh inside terminal).mono le) ha
  · intro _ _ _ arrival fresh passes a ha
    exact arrival.next wf fresh passes ha

private theorem honest_pass {g : Graph} (wf : g.WellFormed) {limits : MiningLimits} {edges : Nat}
    (le : edges ≤ limits.pathEdges) {m : Mining} (hm : m.Honest g limits) :
    (g.live.pass limits m edges).Honest g limits :=
  List.foldlRecOn _ _ hm fun _ ha _ hsource => honest_visit wf le (.source hsource edges) ha

end LiveGraph

/-- The state of a run beside that of a run with wider limits: the same, or stopped with findings
that the second starts with. -/
structure Mining.Precedes (m wider : Mining) : Prop where
  same : m.truncated = none → m = wider
  findings : m.findings.toList <+: wider.findings.toList

private theorem Mining.Precedes.refl (m : Mining) : m.Precedes m :=
  ⟨fun _ => rfl, List.prefix_refl _⟩

private theorem Mining.Precedes.of_stopped {m wider : Mining} (stopped : m.truncated ≠ none)
    (findings : m.findings.toList <+: wider.findings.toList) : m.Precedes wider :=
  ⟨fun active => absurd active stopped, findings⟩

namespace LiveGraph

variable {g : LiveGraph} {limits more : MiningLimits}

private theorem follow_of_stopped {room : Nat} {path : List Node} {m : Mining} {next : Node}
    (stopped : m.truncated ≠ none) : g.follow limits room path m next =
      if limits.exploredEdges ≤ m.explored then { m with truncated := some .work }
      else { m with explored := m.explored + 1 } := by
  -- once a limit was hit, edges are still counted up to the work limit, but not followed
  unfold follow
  split
  · rfl
  · exact visit_of_stopped stopped

private theorem findings_follow (room : Nat) (path : List Node) (m : Mining) (next : Node) :
    m.findings.toList <+: (g.follow limits room path m next).findings.toList := by
  unfold follow
  split
  · exact List.prefix_refl _
  · exact findings_visit room path { m with explored := m.explored + 1 } next

private theorem emit_precedes (le : limits.findings ≤ more.findings) (node : Node)
    (path : List Node) (m : Mining) :
    (g.emit limits (node :: path) m).Precedes (g.emit more (node :: path) m) := by
  by_cases known : ((node :: path).map (·.id)).reverse ∈ m.seen
  · rw [g.emit_of_known known, g.emit_of_known known]
    exact .refl m
  · by_cases full : limits.findings ≤ m.findings.size
    · rw [g.emit_of_full known full]
      exact .of_stopped (by simp) (findings_emit node path m)
    · have room := Nat.not_le.mp full
      obtain ⟨first, hfirst, eq⟩ := g.emit_of_fresh known room
      obtain ⟨first', hfirst', eq'⟩ := g.emit_of_fresh known (room.trans_le le)
      rw [hfirst, Option.some_inj] at hfirst'
      rw [eq, eq', hfirst']
      exact .refl _

private theorem follow_precedes (le : limits.exploredEdges ≤ more.exploredEdges) {room : Nat}
    {path : List Node} {next : Node} (visits : ∀ m : Mining, m.truncated = none →
      (g.visit limits room path m next).Precedes (g.visit more room path m next))
    {m wider : Mining} (behind : m.Precedes wider) :
    (g.follow limits room path m next).Precedes (g.follow more room path wider next) := by
  by_cases active : m.truncated = none
  · obtain rfl := behind.same active
    by_cases worn : limits.exploredEdges ≤ m.explored
    · have stop : g.follow limits room path m next = { m with truncated := some .work } := if_pos worn
      rw [stop]
      exact .of_stopped (by simp) (findings_follow room path m next)
    · have wide : ¬ more.exploredEdges ≤ m.explored := by omega
      unfold follow
      rw [if_neg worn, if_neg wide]
      exact visits _ active
  · have further : m.findings.toList <+: (g.follow more room path wider next).findings.toList :=
      behind.findings.trans (findings_follow room path wider next)
    rw [follow_of_stopped active]
    split
    · exact .of_stopped (by simp) further
    · exact .of_stopped active further

private theorem foldl_precedes {α : Type} {f h : Mining → α → Mining} {items : List α}
    (step : ∀ a ∈ items, ∀ m wider : Mining, m.Precedes wider → (f m a).Precedes (h wider a))
    {m wider : Mining} (behind : m.Precedes wider) :
    (items.foldl f m).Precedes (items.foldl h wider) := by
  induction items generalizing m wider with
  | nil => exact behind
  | cons a rest ih =>
    rw [List.foldl_cons, List.foldl_cons]
    exact ih (fun b hb => step b (List.mem_cons_of_mem _ hb))
      (step a List.mem_cons_self m wider behind)

private theorem visit_precedes_of_active (findings : limits.findings ≤ more.findings)
    (work : limits.exploredEdges ≤ more.exploredEdges) (room : Nat) (path : List Node) (m : Mining)
    (node : Node) (active : m.truncated = none) :
    (g.visit limits room path m node).Precedes (g.visit more room path m node) := by
  induction room using Nat.strongRecOn generalizing path m node with
  | ind room ih =>
    rw [visit_of_active active, visit_of_active active]
    split
    · exact .refl m
    · split
      · exact emit_precedes findings node path m
      · cases room with
        | zero => exact .refl m
        | succ less =>
          refine foldl_precedes ?_ (.refl m)
          intro next _ a wider behind
          exact follow_precedes work
            (fun b hb => ih less (Nat.lt_succ_self less) (node :: path) b next hb) behind

private theorem visit_precedes (findings : limits.findings ≤ more.findings)
    (work : limits.exploredEdges ≤ more.exploredEdges) (room : Nat) (path : List Node)
    {m wider : Mining} (behind : m.Precedes wider) (node : Node) :
    (g.visit limits room path m node).Precedes (g.visit more room path wider node) := by
  by_cases active : m.truncated = none
  · obtain rfl := behind.same active
    exact visit_precedes_of_active findings work room path m node active
  · rw [visit_of_stopped active]
    exact .of_stopped active (behind.findings.trans (findings_visit room path wider node))

private theorem pass_precedes (findings : limits.findings ≤ more.findings)
    (work : limits.exploredEdges ≤ more.exploredEdges) {m wider : Mining}
    (behind : m.Precedes wider) (edges : Nat) :
    (g.pass limits m edges).Precedes (g.pass more wider edges) :=
  foldl_precedes (fun node _ _ _ here => visit_precedes findings work edges [] here node) behind

end LiveGraph

namespace Graph

theorem honest_mine {g : Graph} (wf : g.WellFormed) (limits : MiningLimits) :
    (limits.passes.foldl (g.live.pass limits) {}).Honest g limits :=
  List.foldlRecOn _ _ (Mining.honest_start g limits) fun _ ha _ hedges =>
    LiveGraph.honest_pass wf (MiningLimits.le_of_mem_passes hedges) ha

/-- Wider limits for paths of the same length add findings behind those that there are, and nothing
where no limit was hit. -/
private theorem mine_precedes {limits more : MiningLimits}
    (paths : more.pathEdges = limits.pathEdges) (findings : limits.findings ≤ more.findings)
    (work : limits.exploredEdges ≤ more.exploredEdges) (g : Graph) :
    (limits.passes.foldl (g.live.pass limits) {}).Precedes
      (more.passes.foldl (g.live.pass more) {}) := by
  have passes : more.passes = limits.passes := by rw [MiningLimits.passes, paths, MiningLimits.passes]
  rw [passes]
  exact LiveGraph.foldl_precedes
    (fun edges _ _ _ behind => LiveGraph.pass_precedes findings work behind edges) (.refl {})

/-- The limits of mining are honest and monotone on every graph that can be built. There are never
more findings or explored edges than allowed. If the limit of findings is reported, then there are
exactly as many findings, and a leak path that is not among them; if the work limit is reported,
then exactly as many edges were explored. With wider limits for paths of the same length, the
findings start with those there were, and if no limit was hit the result is the same. -/
theorem limits_honest (unit : String) (steps : List GraphStep) (limits : MiningLimits) :
    let g := ({ unit := unit } : Graph).run steps
    let mined := g.mine limits
    mined.findings.length ≤ limits.findings ∧ mined.explored ≤ limits.exploredEdges ∧
    (mined.truncated = some .findings → mined.findings.length = limits.findings ∧
      ∃ path, g.LeakPath limits.pathEdges path ∧
        ∀ f ∈ mined.findings, f.path ≠ path.map (·.id)) ∧
    (mined.truncated = some .work → mined.explored = limits.exploredEdges) ∧
    ∀ more : MiningLimits, more.pathEdges = limits.pathEdges →
      limits.findings ≤ more.findings → limits.exploredEdges ≤ more.exploredEdges →
      mined.findings <+: (g.mine more).findings ∧
      (mined.truncated = none → g.mine more = mined) := by
  intro g mined
  have wf : g.WellFormed := wellFormed_run (wellFormed_empty unit) steps
  have honest := honest_mine wf limits
  refine ⟨honest.findings, honest.explored, ?_, honest.worn, ?_⟩
  · intro hit
    obtain ⟨all, path, leak, left⟩ := honest.full hit
    exact ⟨all, path, leak, fun f hf => left f (Array.mem_toList_iff.mp hf)⟩
  · intro more paths findings work
    have behind := mine_precedes paths findings work g
    refine ⟨behind.findings, ?_⟩
    intro whole
    unfold mined mine
    rw [behind.same whole]

end Graph

end SecretFlow

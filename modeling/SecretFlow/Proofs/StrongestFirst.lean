import SecretFlow.Proofs.LeakPaths

set_option autoImplicit false
set_option relaxedAutoImplicit false

/-!
Short leak paths come first, whatever limit stops mining: a pass begins only when the one before it
was finished, and then every path within its reach has been reported. The depths of the passes are
those at which the confidence in a path drops, so findings of sinks stand in the order of their
confidence.
-/

namespace SecretFlow

namespace LiveGraph

variable {g : LiveGraph} {limits : MiningLimits}

theorem visit_of_stopped {room : Nat} {path : List Node} {m : Mining} {node : Node}
    (stopped : m.truncated ≠ none) : g.visit limits room path m node = m := by
  rcases visit_cases g limits room path m node with same | ⟨active, _⟩
  · exact same
  · exact absurd active stopped

private theorem pass_of_stopped {m : Mining} (edges : Nat) (stopped : m.truncated ≠ none) :
    g.pass limits m edges = m :=
  List.foldlRecOn (motive := (· = m)) _ _ rfl fun _ same _ _ => by
    rw [same]
    exact visit_of_stopped stopped

private theorem passes_of_stopped {m : Mining} (depths : List Nat) (stopped : m.truncated ≠ none) :
    depths.foldl (g.pass limits) m = m :=
  List.foldlRecOn (motive := (· = m)) _ _ rfl fun _ same edges _ => by
    rw [same]
    exact pass_of_stopped edges stopped

theorem findings_emit (node : Node) (path : List Node) (m : Mining) :
    m.findings.toList <+: (g.emit limits (node :: path) m).findings.toList := by
  rcases emit_cases g limits node path m with ⟨_, eq⟩ | ⟨_, ⟨_, eq⟩ | ⟨first, _, eq⟩⟩
  · simp only [eq, List.prefix_refl]
  · simp only [eq, List.prefix_refl]
  · rw [eq, Array.toList_push]
    exact List.prefix_append _ _

theorem findings_visit (room : Nat) (path : List Node) (m : Mining) (node : Node) :
    m.findings.toList <+: (g.visit limits room path m node).findings.toList := by
  refine visit_preserves (P := fun a => m.findings.toList <+: a.findings.toList)
    (C := fun _ _ _ => True) ?_ ?_ ?_ ?_ room path m node trivial (List.prefix_refl _)
  · intro a ha
    exact ha
  · intro a ha
    exact ha
  · intro _ path a node _ _ _ _ ha
    exact ha.trans (findings_emit node path a)
  · intros
    trivial

private theorem findings_pass (m : Mining) (edges : Nat) :
    m.findings.toList <+: (g.pass limits m edges).findings.toList :=
  List.foldlRecOn (motive := fun a : Mining => m.findings.toList <+: a.findings.toList) _ _
    (List.prefix_refl _) fun a ha node _ => ha.trans (findings_visit edges [] a node)

private theorem findings_passes (m : Mining) (depths : List Nat) :
    m.findings.toList <+: (depths.foldl (g.pass limits) m).findings.toList :=
  List.foldlRecOn (motive := fun a : Mining => m.findings.toList <+: a.findings.toList) _ _
    (List.prefix_refl _) fun a ha edges _ => ha.trans (findings_pass a edges)

end LiveGraph

namespace Finding.Tells

variable {g : Graph} {limit : Nat} {f : Finding}

private theorem edgeCount_le (tells : f.Tells g limit) : f.edgeCount ≤ limit := by
  obtain ⟨path, first, last, leak, _, _, rfl⟩ := tells
  have short := leak.short
  simp only [edgeCount, ofPath_path, List.length_map]
  omega

private theorem confidence_eq (tells : f.Tells g limit) (sink : f.sink.isSome = true) :
    f.confidence = if f.edgeCount ≤ 2 then .high else if f.edgeCount ≤ 4 then .medium else .low := by
  obtain ⟨path, first, last, _, _, _, rfl⟩ := tells
  have inspected : last.kind.isUnresolved = false := by
    cases kind : last.kind <;> simp [ofPath, kind, NodeKind.isUnresolved] at sink ⊢
  simp only [ofPath, scorePath, inspected, Bool.false_eq_true, if_false]
  rfl

end Finding.Tells

private theorem exists_depth_between {a b : Nat} {x y : Confidence}
    (hx : x = if a ≤ 2 then .high else if a ≤ 4 then .medium else .low)
    (hy : y = if b ≤ 2 then .high else if b ≤ 4 then .medium else .low) (less : x.rank < y.rank) :
    ∃ d, (d = 2 ∨ d = 4) ∧ b ≤ d ∧ d < a := by
  subst hx hy
  by_cases shallow : b ≤ 2
  · by_cases deep : 2 < a
    · exact ⟨2, .inl rfl, shallow, deep⟩
    · simp [shallow, Nat.not_lt.mp deep] at less
  · by_cases middle : b ≤ 4
    · by_cases deep : 4 < a
      · exact ⟨4, .inr rfl, middle, deep⟩
      · simp only [shallow, middle, Nat.not_lt.mp deep, if_true, if_false] at less
        split at less <;> simp [Confidence.rank] at less
    · simp [shallow, middle, Confidence.rank] at less

private theorem MiningLimits.passes_split {limits : MiningLimits} {d : Nat} (depth : d = 2 ∨ d = 4)
    (lt : d < limits.pathEdges) :
    ∃ before after, limits.passes = before ++ d :: after ∧ ∀ edges ∈ before, edges ≤ d := by
  rcases depth with rfl | rfl
  · exact ⟨[], [4].filter (· < limits.pathEdges) ++ [limits.pathEdges],
      by simp [passes, lt], by simp⟩
  · have two : 2 < limits.pathEdges := by omega
    exact ⟨[2], [limits.pathEdges], by simp [passes, lt, two], by simp⟩

namespace Graph

variable {g : Graph} {limits : MiningLimits}

/-- A finding deeper than a pass stands behind all leak paths within the reach of that pass. -/
private theorem exists_before_deeper (wf : g.WellFormed) {d : Nat} (depth : d = 2 ∨ d = 4) {i : Nat}
    {f : Finding} (hf : (g.mine limits).findings[i]? = some f) (deep : d < f.edgeCount)
    {path : List Node} (leak : g.LeakPath d path) :
    ∃ j < i, ∃ a, (g.mine limits).findings[j]? = some a ∧ a.path = path.map (·.id) := by
  have reach := (tells_of_mem_mine wf (List.mem_of_getElem? hf)).edgeCount_le
  obtain ⟨before, after, passes, le⟩ := MiningLimits.passes_split depth (deep.trans_le reach)
  let start := before.foldl (g.live.pass limits) {}
  let m := g.live.pass limits start d
  have final : limits.passes.foldl (g.live.pass limits) {} = after.foldl (g.live.pass limits) m := by
    rw [passes, List.foldl_append, List.foldl_cons]
  have sound : m.Sound g d :=
    LiveGraph.sound_pass wf le_rfl (LiveGraph.sound_passes wf le (Mining.sound_start g d))
  obtain ⟨new, hnew⟩ : m.findings.toList <+: (g.mine limits).findings := by
    unfold mine
    rw [final]
    exact LiveGraph.findings_passes m after
  -- the findings up to this pass are too short, so the deeper one came later
  have later : m.findings.toList.length ≤ i := by
    by_contra early
    rw [Nat.not_le] at early
    rw [← hnew, List.getElem?_append_left early] at hf
    have short := (sound.told f (Array.mem_toList_iff.mp (List.mem_of_getElem? hf))).edgeCount_le
    omega
  have active : m.truncated = none := by
    by_contra stopped
    have all : (g.mine limits).findings = m.findings.toList := by
      unfold mine
      rw [final, LiveGraph.passes_of_stopped after stopped]
    rw [all, List.getElem?_eq_none later] at hf
    cases hf
  obtain ⟨a, ha, same⟩ := sound.kept active _ (LiveGraph.pass_meets wf leak start active)
  obtain ⟨j, hj⟩ := List.mem_iff_getElem?.mp (Array.mem_toList_iff.mpr ha)
  have inside : j < m.findings.toList.length := (List.getElem?_eq_some_iff.mp hj).1
  exact ⟨j, by omega, a, by rw [← hnew, List.getElem?_append_left inside, hj], same⟩

private theorem pairwise_confidence (wf : g.WellFormed) (limits : MiningLimits) :
    ((g.mine limits).findings.filter (·.sink.isSome)).Pairwise
      fun a b => b.confidence.rank ≤ a.confidence.rank := by
  rw [List.pairwise_filter, List.pairwise_iff_getElem]
  intro i j hi hj lt sink sink'
  by_contra less
  rw [Nat.not_le] at less
  have tells := tells_of_mem_mine wf (List.getElem_mem hi)
  have tells' := tells_of_mem_mine wf (List.getElem_mem hj)
  obtain ⟨d, depth, short, deep⟩ :=
    exists_depth_between (tells.confidence_eq sink) (tells'.confidence_eq sink') less
  obtain ⟨path, first, last, leak, _, _, told⟩ := tells'
  have within : g.LeakPath d path := by
    refine { leak with short := ?_ }
    rw [told] at short
    simp only [Finding.edgeCount, Finding.ofPath_path, List.length_map] at short
    omega
  obtain ⟨k, hk, a, found, same⟩ :=
    exists_before_deeper wf depth (List.getElem?_eq_getElem hi) deep within
  -- the path of the second finding would be reported twice
  have again : ((g.mine limits).findings.map (·.path))[k]? =
      ((g.mine limits).findings.map (·.path))[j]? := by
    rw [List.getElem?_map, List.getElem?_map, found, List.getElem?_eq_getElem hj, Option.map_some,
      Option.map_some, same, told, Finding.ofPath_path]
  have inside : k < ((g.mine limits).findings.map (·.path)).length := by
    rw [List.length_map]
    exact (List.getElem?_eq_some_iff.mp found).1
  have twice : k = j := (List.getElem?_inj inside (nodup_mine wf limits)).mp again
  omega

/-- The strongest findings come first, whatever limit stops mining. If a path of more than two edges
is reported, then every leak path of at most two edges is reported before it, and the same holds of
four edges. So the confidence in findings of sinks never grows along the list. -/
theorem strongest_first (unit : String) (steps : List GraphStep) (limits : MiningLimits) :
    let g := ({ unit := unit } : Graph).run steps
    let findings := (g.mine limits).findings
    (∀ d, d = 2 ∨ d = 4 → ∀ (i : Nat) (f : Finding), findings[i]? = some f → d < f.edgeCount →
      ∀ path, g.LeakPath limits.pathEdges path → path.length - 1 ≤ d →
        ∃ j < i, ∃ a : Finding, findings[j]? = some a ∧ a.path = path.map (·.id)) ∧
    (findings.filter (·.sink.isSome)).Pairwise
      fun a b => b.confidence.rank ≤ a.confidence.rank := by
  intro g findings
  have wf : g.WellFormed := wellFormed_run (wellFormed_empty unit) steps
  refine ⟨?_, pairwise_confidence wf limits⟩
  intro d depth i f hf deep path leak short
  have within : g.LeakPath d path := { leak with short := by omega }
  exact exists_before_deeper wf depth hf deep within

end Graph

end SecretFlow

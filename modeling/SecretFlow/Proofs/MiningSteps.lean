import SecretFlow.Leak.Mining

set_option autoImplicit false
set_option relaxedAutoImplicit false

/-!
What one visit of mining can do: nothing, a report, or a turn along each edge. Whatever happens,
no path that was met is forgotten and a limit that was hit stays hit.
-/

namespace SecretFlow

namespace LiveGraph

def follow (g : LiveGraph) (limits : MiningLimits) (room : Nat) (path : List Node) (m : Mining)
    (next : Node) : Mining :=
  if limits.exploredEdges ≤ m.explored then { m with truncated := some .work }
  else g.visit limits room path { m with explored := m.explored + 1 } next

theorem visit_of_terminal {g : LiveGraph} {limits : MiningLimits} {room : Nat} {path : List Node}
    {m : Mining} {node : Node} (active : m.truncated = none)
    (fresh : path.any (·.id = node.id) = false) (inside : path ≠ [])
    (terminal : node.kind.isTerminal = true) :
    g.visit limits room path m node = g.emit limits (node :: path) m := by
  rw [visit.eq_def]
  simp [active, fresh, inside, terminal]

theorem visit_succ {g : LiveGraph} {limits : MiningLimits} {room : Nat} {path : List Node}
    {m : Mining} {node : Node} (active : m.truncated = none)
    (fresh : path.any (·.id = node.id) = false)
    (passes : path = [] ∨ node.kind.isTerminal = false) :
    g.visit limits (room + 1) path m node =
      (g.successors node.id).foldl (g.follow limits room (node :: path)) m := by
  rw [visit]
  have goes : (!path.isEmpty && node.kind.isTerminal) = false := by
    rcases passes with rfl | passes
    · rfl
    · rw [passes, Bool.and_false]
  simp only [active, Option.isSome_none, fresh, goes, Bool.or_self, Bool.false_eq_true, if_false]
  rfl

theorem visit_of_active {g : LiveGraph} {limits : MiningLimits} {room : Nat} {path : List Node}
    {m : Mining} {node : Node} (active : m.truncated = none) :
    g.visit limits room path m node =
      if path.any (·.id = node.id) then m
      else if !path.isEmpty && node.kind.isTerminal then g.emit limits (node :: path) m
      else match room with
        | 0 => m
        | room + 1 => (g.successors node.id).foldl (g.follow limits room (node :: path)) m := by
  rw [visit.eq_def]
  simp only [active, Option.isSome_none, Bool.false_or]
  rfl

/-- A visit changes nothing, reports a path, or goes on from the node. -/
theorem visit_cases (g : LiveGraph) (limits : MiningLimits) (room : Nat) (path : List Node)
    (m : Mining) (node : Node) :
    g.visit limits room path m node = m ∨
      m.truncated = none ∧ path.any (·.id = node.id) = false ∧
        (path ≠ [] ∧ node.kind.isTerminal = true ∧
            g.visit limits room path m node = g.emit limits (node :: path) m ∨
          (path = [] ∨ node.kind.isTerminal = false) ∧
            ∃ less, room = less + 1 ∧ g.visit limits room path m node =
              (g.successors node.id).foldl (g.follow limits less (node :: path)) m) := by
  by_cases blocked : (m.truncated.isSome || path.any (·.id = node.id)) = true
  · left
    rw [visit.eq_def]
    exact if_pos blocked
  · simp only [Bool.or_eq_true, not_or, Bool.not_eq_true, Option.isSome_eq_false_iff,
      Option.isNone_iff_eq_none] at blocked
    obtain ⟨active, fresh⟩ := blocked
    by_cases passes : path = [] ∨ node.kind.isTerminal = false
    · cases room with
      | zero =>
        left
        rw [visit]
        rcases passes with rfl | passes
        · simp
        · simp [passes]
      | succ less =>
        exact .inr ⟨active, fresh, .inr ⟨passes, less, rfl, visit_succ active fresh passes⟩⟩
    · obtain ⟨inside, terminal⟩ := not_or.mp passes
      rw [Bool.not_eq_false] at terminal
      exact .inr ⟨active, fresh, .inl ⟨inside, terminal,
        visit_of_terminal active fresh inside terminal⟩⟩

/-- What every report and every edge taken keeps, a visit keeps. Edges are taken only within the
work limit, and reports are made only before any limit was hit. The condition `C` tells which nodes
are visited after which paths. -/
theorem visit_keeps {g : LiveGraph} {limits : MiningLimits} {P : Mining → Prop}
    {C : Nat → List Node → Node → Prop}
    (work : ∀ m, limits.exploredEdges ≤ m.explored → P m → P { m with truncated := some .work })
    (explore : ∀ m, m.explored < limits.exploredEdges → P m →
      P { m with explored := m.explored + 1 })
    (emit : ∀ room path m node, m.truncated = none → C room path node →
      path.any (·.id = node.id) = false → path ≠ [] → node.kind.isTerminal = true → P m →
      P (g.emit limits (node :: path) m))
    (enter : ∀ room path node, C (room + 1) path node →
      path.any (·.id = node.id) = false → path = [] ∨ node.kind.isTerminal = false →
      ∀ a ∈ g.successors node.id, C room (node :: path) a)
    (room : Nat) (path : List Node) (m : Mining) (node : Node) (here : C room path node)
    (hm : P m) : P (g.visit limits room path m node) := by
  induction room generalizing path m node with
  | zero =>
    rcases visit_cases g limits 0 path m node with same | ⟨active, fresh, stop | ⟨_, _, left, _⟩⟩
    · rwa [same]
    · rw [stop.2.2]
      exact emit 0 path m node active here fresh stop.1 stop.2.1 hm
    · omega
  | succ room ih =>
    rcases visit_cases g limits (room + 1) path m node with
      same | ⟨active, fresh, stop | ⟨passes, less, eq, goes⟩⟩
    · rwa [same]
    · rw [stop.2.2]
      exact emit (room + 1) path m node active here fresh stop.1 stop.2.1 hm
    · obtain rfl : room = less := by omega
      rw [goes]
      refine List.foldlRecOn _ _ hm ?_
      intro m' hm' a ha
      unfold follow
      split
      · rename_i worn
        exact work m' worn hm'
      · rename_i allowed
        exact ih _ _ _ (enter room path node here fresh passes a ha)
          (explore m' (Nat.not_le.mp allowed) hm')

theorem visit_preserves {g : LiveGraph} {limits : MiningLimits} {P : Mining → Prop}
    {C : Nat → List Node → Node → Prop}
    (work : ∀ m, P m → P { m with truncated := some .work })
    (explore : ∀ m, P m → P { m with explored := m.explored + 1 })
    (emit : ∀ room path m node, C room path node → path.any (·.id = node.id) = false →
      path ≠ [] → node.kind.isTerminal = true → P m → P (g.emit limits (node :: path) m))
    (enter : ∀ room path node, C (room + 1) path node →
      path.any (·.id = node.id) = false → path = [] ∨ node.kind.isTerminal = false →
      ∀ a ∈ g.successors node.id, C room (node :: path) a)
    (room : Nat) (path : List Node) (m : Mining) (node : Node) (here : C room path node)
    (hm : P m) : P (g.visit limits room path m node) :=
  visit_keeps (fun m _ => work m) (fun m _ => explore m)
    (fun room path m node _ => emit room path m node) enter room path m node here hm

section Report

variable (g : LiveGraph) {limits : MiningLimits} {node : Node} {path : List Node} {m : Mining}

theorem emit_of_known (known : ((node :: path).map (·.id)).reverse ∈ m.seen) :
    g.emit limits (node :: path) m = m :=
  if_pos known

theorem emit_of_full (fresh : ((node :: path).map (·.id)).reverse ∉ m.seen)
    (full : limits.findings ≤ m.findings.size) : g.emit limits (node :: path) m =
      { m with
        seen := m.seen.insert ((node :: path).map (·.id)).reverse
        truncated := some .findings } :=
  (if_neg fresh).trans (if_pos full)

theorem emit_of_fresh (fresh : ((node :: path).map (·.id)).reverse ∉ m.seen)
    (room : m.findings.size < limits.findings) :
    ∃ first, (node :: path).getLast? = some first ∧ g.emit limits (node :: path) m =
      { m with
        seen := m.seen.insert ((node :: path).map (·.id)).reverse
        findings := m.findings.push
          (.ofPath g.unit ((node :: path).map (·.id)).reverse first node) } := by
  have first := List.getLast?_eq_some_getLast (List.cons_ne_nil node path)
  refine ⟨_, first, ((if_neg fresh).trans (if_neg (Nat.not_le.mpr room))).trans ?_⟩
  simp only [first, List.head?_cons]

end Report

/-- A path that was reported before is not reported again; one too many stops mining; any other
becomes a finding. -/
theorem emit_cases (g : LiveGraph) (limits : MiningLimits) (node : Node) (path : List Node)
    (m : Mining) :
    let ids := ((node :: path).map (·.id)).reverse
    ids ∈ m.seen ∧ g.emit limits (node :: path) m = m ∨
      ids ∉ m.seen ∧
        (limits.findings ≤ m.findings.size ∧ g.emit limits (node :: path) m =
            { m with seen := m.seen.insert ids, truncated := some .findings } ∨
          ∃ first, (node :: path).getLast? = some first ∧
            g.emit limits (node :: path) m =
              { m with
                seen := m.seen.insert ids
                findings := m.findings.push (.ofPath g.unit ids first node) }) := by
  intro ids
  by_cases known : ids ∈ m.seen
  · exact .inl ⟨known, g.emit_of_known known⟩
  · refine .inr ⟨known, ?_⟩
    by_cases full : limits.findings ≤ m.findings.size
    · exact .inl ⟨full, g.emit_of_full known full⟩
    · exact .inr (g.emit_of_fresh known (Nat.not_le.mp full))

theorem mem_emit_seen {g : LiveGraph} {limits : MiningLimits} {node : Node} {path : List Node}
    {m : Mining} {ids : List NodeId} : ids ∈ (g.emit limits (node :: path) m).seen ↔
      ids = ((node :: path).map (·.id)).reverse ∨ ids ∈ m.seen := by
  rcases emit_cases g limits node path m with ⟨known, eq⟩ | ⟨_, ⟨_, eq⟩ | ⟨first, _, eq⟩⟩
  · rw [eq]
    constructor
    · exact .inr
    · rintro (rfl | old)
      · exact known
      · exact old
  · rw [eq, Std.HashSet.mem_insert, beq_iff_eq]
    exact or_congr_left eq_comm
  · rw [eq, Std.HashSet.mem_insert, beq_iff_eq]
    exact or_congr_left eq_comm

theorem emit_active {g : LiveGraph} {limits : MiningLimits} {node : Node} {path : List Node}
    {m : Mining} (whole : (g.emit limits (node :: path) m).truncated = none) :
    m.truncated = none := by
  rcases emit_cases g limits node path m with ⟨_, eq⟩ | ⟨_, ⟨_, eq⟩ | ⟨first, _, eq⟩⟩
  · rwa [eq] at whole
  · rw [eq] at whole
    cases whole
  · rw [eq] at whole
    exact whole

end LiveGraph

/-- The second state of mining comes after the first: no path is forgotten, and a limit that was
hit stays hit. -/
structure Mining.Grows (m later : Mining) : Prop where
  seen : ∀ ids ∈ m.seen, ids ∈ later.seen
  active : later.truncated = none → m.truncated = none

private theorem Mining.Grows.refl (m : Mining) : m.Grows m :=
  ⟨fun _ h => h, fun h => h⟩

private theorem Mining.Grows.trans {a b c : Mining} (first : a.Grows b) (second : b.Grows c) :
    a.Grows c :=
  ⟨fun _ h => second.seen _ (first.seen _ h), fun h => first.active (second.active h)⟩

namespace LiveGraph

theorem grows_visit (g : LiveGraph) (limits : MiningLimits) (room : Nat) (path : List Node)
    (m : Mining) (node : Node) : m.Grows (g.visit limits room path m node) := by
  refine visit_preserves (P := m.Grows) (C := fun _ _ _ => True) ?_ ?_ ?_ ?_ room path m node
    trivial (.refl m)
  · intro a ha
    exact ⟨ha.seen, fun whole => nomatch whole⟩
  · intro a ha
    exact ⟨ha.seen, ha.active⟩
  · intro _ _ a _ _ _ _ _ ha
    exact ha.trans ⟨fun _ old => mem_emit_seen.mpr (.inr old), emit_active⟩
  · intros
    trivial

theorem grows_follow (g : LiveGraph) (limits : MiningLimits) (room : Nat) (path : List Node)
    (m : Mining) (next : Node) : m.Grows (g.follow limits room path m next) := by
  unfold follow
  split
  · exact ⟨fun _ h => h, fun whole => nomatch whole⟩
  · have explored : m.Grows { m with explored := m.explored + 1 } := ⟨fun _ h => h, fun h => h⟩
    exact explored.trans (grows_visit g limits room path _ next)

theorem grows_foldl {α : Type} {f : Mining → α → Mining}
    (step : ∀ (m : Mining) (a : α), m.Grows (f m a)) (items : List α) (m : Mining) :
    m.Grows (items.foldl f m) :=
  List.foldlRecOn _ _ (.refl m) fun b hb a _ => hb.trans (step b a)

theorem foldl_meets {α : Type} {f : Mining → α → Mining}
    (step : ∀ (m : Mining) (a : α), m.Grows (f m a)) {items : List α} {a : α} (ha : a ∈ items)
    {ids : List NodeId} (meets : ∀ m, (f m a).truncated = none → ids ∈ (f m a).seen) (m : Mining)
    (whole : (items.foldl f m).truncated = none) : ids ∈ (items.foldl f m).seen := by
  obtain ⟨before, after, rfl⟩ := List.append_of_mem ha
  rw [List.foldl_append, List.foldl_cons] at whole ⊢
  have later := grows_foldl step after (f (before.foldl f m) a)
  exact later.seen ids (meets _ (later.active whole))

theorem grows_pass (g : LiveGraph) (limits : MiningLimits) (m : Mining) (edges : Nat) :
    m.Grows (g.pass limits m edges) :=
  grows_foldl (grows_visit g limits edges []) g.sources m

end LiveGraph

end SecretFlow

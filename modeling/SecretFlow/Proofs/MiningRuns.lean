import Mathlib.Algebra.GroupWithZero.Nat
import Mathlib.Logic.Relation
import SecretFlow.Proofs.StrongestFirst

set_option autoImplicit false
set_option relaxedAutoImplicit false

/-!
Mining as a run from point to point. At a point, loops over the nodes next to a path are under way
inside each other. When a limit is hit, the loops that are open still go through their nodes:
nothing is found any more, but edges are counted up to the work limit, and a node that is left then
makes the work limit the one that is reported. So the first limit that is hit is kept exactly if it
is the work limit or no open loop has a node left.
-/

namespace SecretFlow

/-- A loop that is under way: the nodes still to be visited after a path, last node first, and the
edges that may be taken from each. -/
structure OpenLoop where
  room : Nat
  path : List Node
  todo : List Node

/-- A point of a run of mining: what was found so far, and the loops under way, innermost first. -/
structure MiningPoint where
  mining : Mining
  loops : List OpenLoop

namespace LiveGraph

def enter (g : LiveGraph) (limits : MiningLimits) (room : Nat) (path : List Node) (m : Mining)
    (node : Node) : MiningPoint :=
  if m.truncated.isSome || path.any (·.id = node.id) then ⟨m, []⟩
  else if !path.isEmpty && node.kind.isTerminal then ⟨g.emit limits (node :: path) m, []⟩
  else
    match room with
    | 0 => ⟨m, []⟩
    | less + 1 => ⟨m, [⟨less, node :: path, g.successors node.id⟩]⟩

/-- Take the next node of a loop. It is come to along an edge, unless it is a source. -/
def turn (g : LiveGraph) (limits : MiningLimits) (room : Nat) (path : List Node) (m : Mining)
    (next : Node) : MiningPoint :=
  if path.isEmpty then g.enter limits room path m next
  else if limits.exploredEdges ≤ m.explored then ⟨{ m with truncated := some .work }, []⟩
  else g.enter limits room path { m with explored := m.explored + 1 } next

/-- The next point of a run: the innermost loop takes its next node, or is left. -/
def advance (g : LiveGraph) (limits : MiningLimits) : MiningPoint → Option MiningPoint
  | ⟨_, []⟩ => none
  | ⟨m, ⟨_, _, []⟩ :: outer⟩ => some ⟨m, outer⟩
  | ⟨m, ⟨room, path, next :: todo⟩ :: outer⟩ =>
      let here := g.turn limits room path m next
      some ⟨here.mining, here.loops ++ ⟨room, path, todo⟩ :: outer⟩

def Runs (g : LiveGraph) (limits : MiningLimits) : MiningPoint → MiningPoint → Prop :=
  Relation.ReflTransGen fun p q => g.advance limits p = some q

/-- The point at which mining starts: one loop over the sources for each pass. -/
def start (g : LiveGraph) (limits : MiningLimits) : MiningPoint :=
  ⟨{}, limits.passes.map fun edges => ⟨edges, [], g.sources⟩⟩

variable {g : LiveGraph} {limits : MiningLimits}

private theorem Runs.refl (p : MiningPoint) : g.Runs limits p p :=
  Relation.ReflTransGen.refl

private theorem Runs.trans {p q r : MiningPoint} (first : g.Runs limits p q)
    (second : g.Runs limits q r) : g.Runs limits p r :=
  Relation.ReflTransGen.trans first second

private theorem Runs.head {p q r : MiningPoint} (next : g.advance limits p = some q)
    (runs : g.Runs limits q r) : g.Runs limits p r :=
  Relation.ReflTransGen.head next runs

private theorem Runs.keeps {P : MiningPoint → Prop} {p q : MiningPoint} (runs : g.Runs limits p q)
    (step : ∀ a b, g.advance limits a = some b → P a → P b) (here : P p) : P q := by
  induction runs with
  | refl => exact here
  | tail _ next ih => exact step _ _ next ih

private theorem Runs.end_of {p q : MiningPoint} {m : Mining} (runs : g.Runs limits p q)
    (ends : g.Runs limits p ⟨m, []⟩) : g.Runs limits q ⟨m, []⟩ := by
  -- runs do not branch, so every point of a run leads to its end
  have unique : Relator.RightUnique fun a b => g.advance limits a = some b := by
    intro a b c hb hc
    rw [hb] at hc
    exact Option.some.inj hc
  rcases Relation.ReflTransGen.total_of_right_unique unique runs ends with onward | back
  · exact onward
  · cases Relation.ReflTransGen.cases_head back with
    | inl same => exact same ▸ .refl _
    | inr more =>
      obtain ⟨_, next, _⟩ := more
      cases next

private theorem runs_loop {room : Nat} {path : List Node} {f : Mining → Node → Mining}
    (turns : ∀ m next outer, g.Runs limits
      ⟨(g.turn limits room path m next).mining, (g.turn limits room path m next).loops ++ outer⟩
      ⟨f m next, outer⟩)
    (todo : List Node) (m : Mining) (outer : List OpenLoop) :
    g.Runs limits ⟨m, ⟨room, path, todo⟩ :: outer⟩ ⟨todo.foldl f m, outer⟩ := by
  induction todo generalizing m with
  | nil => exact .head rfl (.refl _)
  | cons next todo ih => exact .head rfl ((turns m next _).trans (ih (f m next)))

private theorem runs_enter (room : Nat) (path : List Node) (m : Mining) (node : Node)
    (outer : List OpenLoop) : g.Runs limits
      ⟨(g.enter limits room path m node).mining, (g.enter limits room path m node).loops ++ outer⟩
      ⟨g.visit limits room path m node, outer⟩ := by
  induction room using Nat.strongRecOn generalizing path m node outer with
  | ind room ih =>
    rw [visit.eq_def]
    unfold enter
    by_cases blocked : (m.truncated.isSome || path.any (·.id = node.id)) = true
    · simp only [blocked, if_true]
      exact .refl _
    · by_cases ends : (!path.isEmpty && node.kind.isTerminal) = true
      · simp only [blocked, ends, Bool.false_eq_true, if_false, if_true]
        exact .refl _
      · simp only [blocked, ends, Bool.false_eq_true, if_false]
        cases room with
        | zero => exact .refl _
        | succ less =>
          refine runs_loop (f := g.follow limits less (node :: path)) ?_ _ m outer
          intro a next outer
          unfold turn follow
          simp only [List.isEmpty_cons, Bool.false_eq_true, if_false]
          split
          · exact .refl _
          · exact ih less (Nat.lt_succ_self less) (node :: path) _ next outer

private theorem runs_passes (depths : List Nat) (m : Mining) :
    g.Runs limits ⟨m, depths.map fun edges => ⟨edges, [], g.sources⟩⟩
      ⟨depths.foldl (g.pass limits) m, []⟩ := by
  induction depths generalizing m with
  | nil => exact .refl _
  | cons edges depths ih =>
    have pass : g.Runs limits
        ⟨m, ⟨edges, [], g.sources⟩ :: depths.map fun edges => ⟨edges, [], g.sources⟩⟩
        ⟨g.pass limits m edges, depths.map fun edges => ⟨edges, [], g.sources⟩⟩ :=
      runs_loop (fun a next outer => runs_enter edges [] a next outer) g.sources m _
    exact pass.trans (ih _)

end LiveGraph

/-- The edges that an open loop still has to take. Sources are not come to along edges. -/
def OpenLoop.edgesLeft (l : OpenLoop) : Nat :=
  if l.path.isEmpty then 0 else l.todo.length

namespace MiningPoint

def edgesLeft (p : MiningPoint) : Nat :=
  (p.loops.map (·.edgesLeft)).sum

def mined (p : MiningPoint) : Mined :=
  ⟨p.mining.findings.toList, p.mining.truncated, p.mining.explored⟩

/-- What mining reports if a limit has been hit: the edges left are counted up to the work limit,
and if there are more of them, the work limit is reported. -/
def outlook (limits : MiningLimits) (p : MiningPoint) : Mined where
  findings := p.mining.findings.toList
  truncated := if limits.exploredEdges < p.mining.explored + p.edgesLeft then some .work
    else p.mining.truncated
  explored := min limits.exploredEdges (p.mining.explored + p.edgesLeft)

end MiningPoint

structure Mining.WithinWork (limits : MiningLimits) (m : Mining) : Prop where
  explored : m.explored ≤ limits.exploredEdges
  worn : m.truncated = some .work → limits.exploredEdges ≤ m.explored

namespace LiveGraph

variable {g : LiveGraph} {limits : MiningLimits}

private theorem withinWork_emit {node : Node} {path : List Node} {m : Mining}
    (within : m.WithinWork limits) : (g.emit limits (node :: path) m).WithinWork limits := by
  rcases emit_cases g limits node path m with ⟨_, eq⟩ | ⟨_, ⟨_, eq⟩ | ⟨first, _, eq⟩⟩
  · rwa [eq]
  · rw [eq]
    exact ⟨within.explored, fun hit => nomatch hit⟩
  · rw [eq]
    exact ⟨within.explored, within.worn⟩

private theorem withinWork_enter {room : Nat} {path : List Node} {m : Mining} {node : Node}
    (within : m.WithinWork limits) :
    (g.enter limits room path m node).mining.WithinWork limits := by
  unfold enter
  split
  · exact within
  · split
    · exact withinWork_emit within
    · split <;> exact within

private theorem withinWork_turn {room : Nat} {path : List Node} {m : Mining} {next : Node}
    (within : m.WithinWork limits) :
    (g.turn limits room path m next).mining.WithinWork limits := by
  unfold turn
  split
  · exact withinWork_enter within
  · split
    · rename_i worn
      exact ⟨within.explored, fun _ => worn⟩
    · rename_i allowed
      refine withinWork_enter ⟨Nat.not_le.mp allowed, ?_⟩
      intro hit
      exact absurd (within.worn hit) allowed

private theorem Runs.withinWork {p q : MiningPoint} (runs : g.Runs limits p q)
    (here : p.mining.WithinWork limits) : q.mining.WithinWork limits := by
  refine runs.keeps (P := fun a => a.mining.WithinWork limits) ?_ here
  rintro ⟨m, loops⟩ b next within
  match loops, next with
  | ⟨_, _, []⟩ :: _, rfl => exact within
  | ⟨_, _, _ :: _⟩ :: _, rfl => exact withinWork_turn within

private theorem enter_of_stopped {room : Nat} {path : List Node} {m : Mining} {node : Node}
    (stopped : m.truncated ≠ none) : g.enter limits room path m node = ⟨m, []⟩ :=
  if_pos (by simp [Option.isSome_iff_ne_none.mpr stopped])

private theorem turn_of_stopped (room : Nat) (path : List Node) {m : Mining} (next : Node)
    (stopped : m.truncated ≠ none) (inside : path ≠ []) : g.turn limits room path m next =
      ⟨if limits.exploredEdges ≤ m.explored then { m with truncated := some .work }
        else { m with explored := m.explored + 1 }, []⟩ := by
  have goes : path.isEmpty = false := by simpa using inside
  unfold turn
  simp only [goes, Bool.false_eq_true, if_false]
  split
  · rfl
  · exact enter_of_stopped (m := { m with explored := m.explored + 1 }) stopped

/-- What can still happen once a limit was hit: a source or the end of a loop changes nothing, and
an edge is counted, or hits the work limit, but is not followed. -/
private theorem advance_of_stopped {p q : MiningPoint} (stopped : p.mining.truncated ≠ none)
    (next : g.advance limits p = some q) :
    q.mining = p.mining ∧ q.edgesLeft = p.edgesLeft ∨
      q.edgesLeft + 1 = p.edgesLeft ∧
        (limits.exploredEdges ≤ p.mining.explored ∧
            q.mining = { p.mining with truncated := some .work } ∨
          p.mining.explored < limits.exploredEdges ∧
            q.mining = { p.mining with explored := p.mining.explored + 1 }) := by
  obtain ⟨m, loops⟩ := p
  match loops, next with
  | ⟨_, _, []⟩ :: _, rfl => exact .inl ⟨rfl, by simp [MiningPoint.edgesLeft, OpenLoop.edgesLeft]⟩
  | ⟨room, [], node :: todo⟩ :: outer, rfl =>
    have unchanged : g.turn limits room [] m node = ⟨m, []⟩ := enter_of_stopped stopped
    rw [unchanged]
    exact .inl ⟨rfl, by simp [MiningPoint.edgesLeft, OpenLoop.edgesLeft]⟩
  | ⟨room, last :: path, node :: todo⟩ :: outer, rfl =>
    right
    rw [turn_of_stopped room (last :: path) node stopped (List.cons_ne_nil last path)]
    refine ⟨by simp [MiningPoint.edgesLeft, OpenLoop.edgesLeft, Nat.add_right_comm], ?_⟩
    by_cases worn : limits.exploredEdges ≤ m.explored
    · exact .inl ⟨worn, if_pos worn⟩
    · exact .inr ⟨Nat.not_le.mp worn, if_neg worn⟩

private theorem outlook_advance {p q : MiningPoint} (stopped : p.mining.truncated ≠ none)
    (next : g.advance limits p = some q) :
    q.mining.truncated ≠ none ∧ q.outlook limits = p.outlook limits := by
  rcases advance_of_stopped stopped next with ⟨same, left⟩ | ⟨left, ⟨worn, eq⟩ | ⟨allowed, eq⟩⟩
  · unfold MiningPoint.outlook
    rw [same, left]
    exact ⟨stopped, rfl⟩
  · have beyond : limits.exploredEdges < p.mining.explored + p.edgesLeft := by omega
    have worn' : limits.exploredEdges ≤ p.mining.explored + q.edgesLeft := by omega
    simp only [MiningPoint.outlook, eq, beyond, if_true, ite_self, Nat.min_eq_left worn',
      Nat.min_eq_left beyond.le]
    exact ⟨by simp, trivial⟩
  · have sum : p.mining.explored + 1 + q.edgesLeft = p.mining.explored + p.edgesLeft := by omega
    simp only [MiningPoint.outlook, eq, sum]
    exact ⟨stopped, trivial⟩

private theorem Runs.outlook {p q : MiningPoint} (runs : g.Runs limits p q)
    (stopped : p.mining.truncated ≠ none) :
    q.mining.truncated ≠ none ∧ q.outlook limits = p.outlook limits := by
  refine runs.keeps (P := fun a => a.mining.truncated ≠ none ∧ a.outlook limits = p.outlook limits)
    ?_ ⟨stopped, rfl⟩
  rintro a b next ⟨hit, same⟩
  have onward := outlook_advance hit next
  exact ⟨onward.1, onward.2.trans same⟩

end LiveGraph

namespace MiningPoint

def Settled (p : MiningPoint) : Prop :=
  p.mining.truncated = some .work ∨ p.edgesLeft = 0

private theorem outlook_eq_mined_iff {limits : MiningLimits} {p : MiningPoint}
    (within : p.mining.WithinWork limits) : p.outlook limits = p.mined ↔ p.Settled := by
  have explored := within.explored
  unfold outlook mined
  rw [Mined.mk.injEq]
  constructor
  · rintro ⟨_, reported, count⟩
    by_contra open_
    obtain ⟨other, left⟩ := not_or.mp open_
    have beyond : limits.exploredEdges < p.mining.explored + p.edgesLeft := by omega
    rw [if_pos beyond] at reported
    exact other reported.symm
  · rintro (worn | none)
    · have reached := within.worn worn
      refine ⟨rfl, ?_, by omega⟩
      rw [worn, ite_self]
    · refine ⟨rfl, if_neg (by omega), by omega⟩

end MiningPoint

namespace LiveGraph

variable {g : LiveGraph} {limits : MiningLimits}

private theorem Runs.settled {p q : MiningPoint} (runs : g.Runs limits p q)
    (stopped : p.mining.truncated ≠ none) (settled : p.Settled) : q.Settled := by
  have kept := runs.keeps (P := fun a => a.mining.truncated ≠ none ∧ a.Settled) ?_
    ⟨stopped, settled⟩
  · exact kept.2
  · rintro a b next ⟨hit, worn | none⟩
    · refine ⟨(outlook_advance hit next).1, .inl ?_⟩
      rcases advance_of_stopped hit next with ⟨same, _⟩ | ⟨_, ⟨_, eq⟩ | ⟨_, eq⟩⟩
      · rw [same, worn]
      · rw [eq]
      · rw [eq]
        exact worn
    · refine ⟨(outlook_advance hit next).1, .inr ?_⟩
      rcases advance_of_stopped hit next with ⟨_, left⟩ | ⟨left, _⟩
      · rw [left, none]
      · omega

end LiveGraph

namespace Graph

variable {g : Graph} {limits : MiningLimits} {p : MiningPoint}

def MinesTo (g : Graph) (limits : MiningLimits) (p : MiningPoint) : Prop :=
  g.live.Runs limits (g.live.start limits) p

private theorem MinesTo.exists_end (reached : g.MinesTo limits p) :
    ∃ q, g.live.Runs limits p q ∧ q.loops = [] ∧ q.mined = g.mine limits :=
  ⟨_, LiveGraph.Runs.end_of reached (LiveGraph.runs_passes limits.passes {}), rfl, rfl⟩

private theorem MinesTo.withinWork (reached : g.MinesTo limits p) : p.mining.WithinWork limits :=
  LiveGraph.Runs.withinWork reached ⟨Nat.zero_le _, fun hit => nomatch hit⟩

private theorem MinesTo.mine_eq_outlook (reached : g.MinesTo limits p)
    (stopped : p.mining.truncated ≠ none) : g.mine limits = p.outlook limits := by
  obtain ⟨q, runs, closed, result⟩ := reached.exists_end
  have left : q.edgesLeft = 0 := by rw [MiningPoint.edgesLeft, closed]; rfl
  rw [← result, ← (runs.outlook stopped).2]
  exact ((MiningPoint.outlook_eq_mined_iff (runs.withinWork reached.withinWork)).mpr
    (.inr left)).symm

private theorem MinesTo.kept_iff (reached : g.MinesTo limits p)
    (stopped : p.mining.truncated ≠ none) :
    (∀ q, g.live.Runs limits p q → q.mined = p.mined) ↔ p.Settled := by
  have here := MiningPoint.outlook_eq_mined_iff reached.withinWork
  constructor
  · intro kept
    obtain ⟨q, runs, _, result⟩ := reached.exists_end
    refine here.mp ?_
    rw [← reached.mine_eq_outlook stopped, ← result, kept q runs]
  · intro settled q runs
    have later := MiningPoint.outlook_eq_mined_iff (runs.withinWork reached.withinWork)
    rw [← later.mpr (runs.settled stopped settled), (runs.outlook stopped).2]
    exact here.mpr settled

/-- Once a limit was hit, nothing that mining reports changes any more. -/
def KeepsFirstLimit (g : Graph) (limits : MiningLimits) : Prop :=
  ∀ p, g.MinesTo limits p → p.mining.truncated ≠ none →
    ∀ q, g.live.Runs limits p q → q.mined = p.mined

private theorem MinesTo.edgesLeft_of_kept (reached : g.MinesTo limits p)
    (full : p.mining.truncated = some .findings) (kept : g.KeepsFirstLimit limits) :
    p.edgesLeft = 0 := by
  have stopped : p.mining.truncated ≠ none := by simp [full]
  rcases (reached.kept_iff stopped).mp (kept p reached stopped) with worn | none
  · rw [full] at worn
    cases worn
  · exact none

/-- A run of mining ends with its result. When a limit is hit, the findings stay as they are, but
the edges that open loops have left are still counted up to the work limit, and if there are more of
them the work limit is reported. So mining keeps the first limit exactly if no edge is left whenever
the limit of findings is hit. -/
theorem first_limit_kept_iff (g : Graph) (limits : MiningLimits) :
    (∃ p, g.MinesTo limits p ∧ p.loops = [] ∧ p.mined = g.mine limits) ∧
    (∀ p, g.MinesTo limits p → p.mining.truncated ≠ none → g.mine limits = p.outlook limits) ∧
    (g.KeepsFirstLimit limits ↔
      ∀ p, g.MinesTo limits p → p.mining.truncated = some .findings → p.edgesLeft = 0) := by
  refine ⟨MinesTo.exists_end (.refl _), fun p reached stopped => reached.mine_eq_outlook stopped,
    ?_, ?_⟩
  · intro kept p reached full
    exact reached.edgesLeft_of_kept full kept
  · intro closed p reached stopped
    refine (reached.kept_iff stopped).mpr ?_
    obtain ⟨t, hit⟩ := Option.ne_none_iff_exists'.mp stopped
    cases t with
    | findings => exact .inr (closed p reached hit)
    | work => exact .inl hit

def threeSinks : Graph where
  unit := "u"
  nodes := secret :: ["k1", "k2", "k3"].map echo
  edges := ["k1", "k2", "k3"].map fun sink => ⟨"d", sink, .injectsInto⟩
where
  /-- The declaration of the secret. -/
  secret : Node := ⟨"d", .secretDeclaration, none, .secret "db" (some "password") "DB_PASSWORD"⟩
  /-- A sink that prints its own id. -/
  echo (id : NodeId) : Node := ⟨id, .externalSink .stdout "echo", none, .text id⟩

namespace threeSinks

private theorem live_eq : threeSinks.reachingTerminals = ["k1", "k2", "k3", "d"] := by
  decide +kernel

private theorem sources_eq : threeSinks.live.sources = [secret] := by
  have declared : threeSinks.nodes.filter (·.kind = .secretDeclaration) = [secret] := by
    decide +kernel
  simp only [live, sources, declared, List.mergeSort_singleton, live_eq]
  decide +kernel

private theorem successors_eq :
    threeSinks.live.successors secret.id = ["k1", "k2", "k3"].map echo := by
  rw [live_successors_eq (by decide +kernel), liveSuccessors, successors, live_eq,
    List.mergeSort_of_pairwise]
  · decide +kernel
  · decide +kernel

private theorem runs_echo {limits : MiningLimits} {m : Mining} (active : m.truncated = none)
    (allowed : m.explored < limits.exploredEdges) (id : NodeId) (other : id ≠ "d") (room : Nat)
    (todo : List Node) (outer : List OpenLoop) :
    threeSinks.live.Runs limits ⟨m, ⟨room, [secret], echo id :: todo⟩ :: outer⟩
      ⟨threeSinks.live.emit limits [echo id, secret] { m with explored := m.explored + 1 },
        ⟨room, [secret], todo⟩ :: outer⟩ := by
  refine .head ?_ (.refl _)
  simp [LiveGraph.advance, LiveGraph.turn, LiveGraph.enter, Nat.not_le.mpr allowed, active,
    secret, echo, other.symm, NodeKind.isTerminal]

private theorem exists_first_report : ∃ m, threeSinks.live.emit ⟨16, 1, 2⟩ [echo "k1", secret]
    { explored := 1 } = m ∧ m.truncated = none ∧ m.explored = 1 ∧ m.findings.size = 1 ∧
      ([echo "k2", secret].map (·.id)).reverse ∉ m.seen := by
  have fresh : ([echo "k1", secret].map (·.id)).reverse ∉ ({ explored := 1 } : Mining).seen := by
    simp
  have room : ({ explored := 1 } : Mining).findings.size < MiningLimits.findings ⟨16, 1, 2⟩ := by
    decide
  obtain ⟨source, _, reported⟩ := threeSinks.live.emit_of_fresh fresh room
  refine ⟨_, reported, rfl, rfl, rfl, ?_⟩
  rw [Std.HashSet.mem_insert]
  simp [echo]

private theorem exists_stop : ∃ p, threeSinks.MinesTo ⟨16, 1, 2⟩ p ∧
    p.mining.truncated = some .findings ∧ p.mining.explored = 2 ∧ p.edgesLeft = 1 := by
  obtain ⟨m, reported, active, explored, size, fresh⟩ := exists_first_report
  have entered : threeSinks.MinesTo ⟨16, 1, 2⟩ ⟨{}, ⟨1, [secret], ["k1", "k2", "k3"].map echo⟩ ::
      ⟨2, [], []⟩ :: [4, 16].map fun edges => ⟨edges, [], [secret]⟩⟩ := by
    refine .head ?_ (.refl _)
    simp [LiveGraph.advance, LiveGraph.start, LiveGraph.turn, LiveGraph.enter, MiningLimits.passes,
      sources_eq, successors_eq]
  have once := entered.trans (runs_echo rfl (by decide) "k1" (by decide) 1 _ _)
  rw [reported] at once
  have twice := once.trans (runs_echo active (by rw [explored]; decide) "k2" (by decide) 1 _ _)
  have full : MiningLimits.findings ⟨16, 1, 2⟩ ≤ m.findings.size := Nat.le_of_eq size.symm
  rw [threeSinks.live.emit_of_full (m := { m with explored := m.explored + 1 }) fresh full] at twice
  exact ⟨_, twice, rfl, congrArg (· + 1) explored, rfl⟩

end threeSinks

/-- The limit of findings is hit first, but the work limit is reported. -/
theorem first_limit_lost : ¬ threeSinks.KeepsFirstLimit ⟨16, 1, 2⟩ ∧
    (∃ p, threeSinks.MinesTo ⟨16, 1, 2⟩ p ∧ p.mined.truncated = some .findings ∧
      p.mined.explored = 2) ∧
    (threeSinks.mine ⟨16, 1, 2⟩).truncated = some .work := by
  obtain ⟨p, reached, full, explored, left⟩ := threeSinks.exists_stop
  refine ⟨?_, ⟨p, reached, full, explored⟩, ?_⟩
  · intro kept
    have none := reached.edgesLeft_of_kept full kept
    omega
  · rw [reached.mine_eq_outlook (by simp [full])]
    simp [MiningPoint.outlook, explored, left]

end Graph

end SecretFlow

import Std.Data.HashSet
import SecretFlow.Leak.Path

set_option autoImplicit false
set_option relaxedAutoImplicit false

/-!
Mining: the paths in a flow graph from secret declarations to sinks and dead ends. Paths visit no
node twice and end at the first sink or dead end. Short paths are looked for first, so that limits
cut off the weakest findings.
-/

namespace SecretFlow

/-- Limits of mining: edges of a path, findings, and edges that may be explored. -/
structure MiningLimits where
  pathEdges : Nat := 16
  findings : Nat := 1000
  exploredEdges : Nat := 200000
  deriving DecidableEq, Repr

/-- The lengths up to which paths are looked for, one pass after the other. -/
def MiningLimits.passes (l : MiningLimits) : List Nat :=
  [2, 4].filter (· < l.pathEdges) ++ [l.pathEdges]

inductive Truncation where
  | findings
  | work
  deriving DecidableEq, Repr

structure Mining where
  findings : Array Finding := #[]
  seen : Std.HashSet (List NodeId) := {}
  truncated : Option Truncation := none
  explored : Nat := 0

structure Mined where
  findings : List Finding
  truncated : Option Truncation
  explored : Nat
  deriving DecidableEq, Repr

/-- A graph prepared for mining: from each node, the nodes next to it that lead to a sink or dead
end. -/
structure LiveGraph where
  unit : String
  sources : List Node
  next : List (NodeId × List Node)

namespace Graph

/-- The nodes next to an id that lead to a sink or dead end, in the order of exploration. -/
def liveSuccessors (g : Graph) (live : List NodeId) (id : NodeId) : List Node :=
  ((g.successors id).map (·.2)).filter fun n => live.contains n.id

def live (g : Graph) : LiveGraph :=
  let live := g.reachingTerminals
  { unit := g.unit
    sources := g.sources.filter fun n => live.contains n.id
    next := g.nodes.map fun n => (n.id, g.liveSuccessors live n.id) }

end Graph

namespace LiveGraph

def successors (g : LiveGraph) (id : NodeId) : List Node :=
  ((g.next.find? (·.1 = id)).map (·.2)).getD []

/-- Report a path, last node first, unless it was reported or there are too many. -/
def emit (g : LiveGraph) (limits : MiningLimits) (path : List Node) (m : Mining) : Mining :=
  let ids := (path.map (·.id)).reverse
  if m.seen.contains ids then m
  else
    let m := { m with seen := m.seen.insert ids }
    if limits.findings ≤ m.findings.size then { m with truncated := some .findings }
    else
      match path.getLast?, path.head? with
      | some first, some last =>
          { m with findings := m.findings.push (.ofPath g.unit ids first last) }
      | _, _ => m

/-- Visit a node after a path, last node first, from which so many edges may still be taken. -/
def visit (g : LiveGraph) (limits : MiningLimits) : Nat → List Node → Mining → Node → Mining
  | room, path, m, node =>
      if m.truncated.isSome || path.any (·.id = node.id) then m
      else if !path.isEmpty && node.kind.isTerminal then g.emit limits (node :: path) m
      else
        match room with
        | 0 => m
        | room + 1 =>
            (g.successors node.id).foldl (fun m next =>
              if limits.exploredEdges ≤ m.explored then { m with truncated := some .work }
              else visit g limits room (node :: path) { m with explored := m.explored + 1 } next) m

/-- Look for paths of up to a number of edges from every source. -/
def pass (g : LiveGraph) (limits : MiningLimits) (m : Mining) (edges : Nat) : Mining :=
  g.sources.foldl (g.visit limits edges []) m

end LiveGraph

def Graph.mine (g : Graph) (limits : MiningLimits := {}) : Mined :=
  let m := limits.passes.foldl (g.live.pass limits) {}
  ⟨m.findings.toList, m.truncated, m.explored⟩

end SecretFlow

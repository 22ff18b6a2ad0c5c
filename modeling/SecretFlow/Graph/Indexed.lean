import Std.Data.HashMap
import Std.Data.HashSet
import SecretFlow.Flow.Step

set_option autoImplicit false
set_option relaxedAutoImplicit false

/-!
Flow graphs as they are stored. Nodes and edges stand in arrays, an edge by the places of its ends.
An index leads from ids to places and a set holds the edges that are there, so that neither adding
nor looking up goes through an array.
-/

namespace SecretFlow

structure Link where
  source : Nat
  target : Nat
  relation : Relation
  deriving DecidableEq, Repr

instance : Hashable Link where
  hash l := mixHash (hash l.source) (mixHash (hash l.target) (hash l.relation.rank))

structure IndexedGraph where
  unit : String
  nodes : Array Node := #[]
  index : Std.HashMap NodeId Nat := {}
  links : Array Link := #[]
  known : Std.HashSet Link := {}
  diagnostics : Array Diagnostic := #[]

/-- A walk against the flow: the places that wait to be looked at, and all that have ever waited. -/
structure Backwalk where
  waiting : List Nat
  seen : Std.HashSet Nat

/-- Come to a place. It waits to be looked at unless it has waited before. -/
def Backwalk.meet (w : Backwalk) (place : Nat) : Backwalk :=
  if w.seen.contains place then w
  else { waiting := w.waiting ++ [place], seen := w.seen.insert place }

namespace IndexedGraph

def contains (g : IndexedGraph) (id : NodeId) : Bool :=
  g.index.contains id

def node? (g : IndexedGraph) (id : NodeId) : Option Node :=
  g.index[id]?.bind fun i => g.nodes[i]?

def place (g : IndexedGraph) (id : NodeId) : Except MissingEndpoint Nat :=
  match g.index[id]? with
  | some i => .ok i
  | none => .error ⟨id⟩

/-- An edge by the places of its ends; the first end that is no node is reported. -/
def link (g : IndexedGraph) (e : Edge) : Except MissingEndpoint Link := do
  let source ← g.place e.source
  let target ← g.place e.target
  return ⟨source, target, e.relation⟩

def edge? (g : IndexedGraph) (l : Link) : Option Edge := do
  let source ← g.nodes[l.source]?
  let target ← g.nodes[l.target]?
  return ⟨source.id, target.id, l.relation⟩

def hasEdge (g : IndexedGraph) (e : Edge) : Bool :=
  match g.link e with
  | .ok l => g.known.contains l
  | .error _ => false

def edges (g : IndexedGraph) : List Edge :=
  g.links.toList.filterMap g.edge?

def pushNode (g : IndexedGraph) (n : Node) : IndexedGraph :=
  { g with nodes := g.nodes.push n, index := g.index.insert n.id g.nodes.size }

def pushLink (g : IndexedGraph) (l : Link) : IndexedGraph :=
  { g with links := g.links.push l, known := g.known.insert l }

def pushDiagnostic (g : IndexedGraph) (d : Diagnostic) : IndexedGraph :=
  { g with diagnostics := g.diagnostics.push d }

/-- Add a node unless its id is taken, and say whether it was added. -/
def addNode (g : IndexedGraph) (n : Node) : IndexedGraph × Bool :=
  if g.contains n.id then (g, false) else (g.pushNode n, true)

/-- Add an edge between two nodes unless it is there, and say whether it was added; the first end
that is no node is reported. -/
def addEdge (g : IndexedGraph) (e : Edge) : IndexedGraph × Except MissingEndpoint Bool :=
  match g.link e with
  | .error missing => (g, .error missing)
  | .ok l => if g.known.contains l then (g, .ok false) else (g.pushLink l, .ok true)

def takeDiagnostics (g : IndexedGraph) : IndexedGraph × Array Diagnostic :=
  ({ g with diagnostics := #[] }, g.diagnostics)

def nodeCount (g : IndexedGraph) : Nat :=
  g.nodes.size

def edgeCount (g : IndexedGraph) : Nat :=
  g.links.size

def inDegree (g : IndexedGraph) (id : NodeId) : Nat :=
  g.index[id]?.elim 0 fun i => g.links.countP (·.target = i)

def flowLinksInto (g : IndexedGraph) (place : Nat) : List Link :=
  g.links.toList.filter fun l => l.relation.isFlow && l.target = place

/-- Look at a place: the places from which secrets flow to it are come to. -/
def lookBack (g : IndexedGraph) (place : Nat) (w : Backwalk) : Backwalk :=
  (g.flowLinksInto place).foldl (fun w l => w.meet l.source) w

/-- A bound on the places that a walk has still to look at: those that wait, and one for each link
from a place that has not waited yet. -/
def workLeft (g : IndexedGraph) (w : Backwalk) : Nat :=
  w.waiting.length + g.links.toList.countP fun l => !w.seen.contains l.source

/-- A place that begins to wait is one more that waits, and its link is one less to come. -/
theorem workLeft_meet_le {g : IndexedGraph} {l : Link} (hl : l ∈ g.links.toList) (w : Backwalk) :
    g.workLeft (w.meet l.source) ≤ g.workLeft w := by
  unfold Backwalk.meet
  split
  · exact Nat.le_refl _
  · rename_i fresh
    have kept (links : List Link) :
        links.countP (fun k => !(w.seen.insert l.source).contains k.source) ≤
          links.countP fun k => !w.seen.contains k.source := by
      refine List.countP_mono_left fun k _ => ?_
      simp only [Std.HashSet.contains_insert, Bool.not_or, Bool.and_eq_true]
      exact And.right
    obtain ⟨before, after, split⟩ := List.append_of_mem hl
    have left := kept before
    have right := kept after
    simp only [workLeft, split, List.countP_append, List.countP_cons, List.length_append,
      List.length_singleton, Std.HashSet.contains_insert_self, fresh]
    simp only [Bool.not_true, Bool.false_eq_true, if_false, Bool.not_false, if_true]
    omega

theorem workLeft_lookBack_le (g : IndexedGraph) (place : Nat) (w : Backwalk) :
    g.workLeft (g.lookBack place w) ≤ g.workLeft w := by
  have inside : ∀ l ∈ g.flowLinksInto place, l ∈ g.links.toList := fun l hl =>
    (List.mem_filter.mp hl).1
  unfold lookBack
  generalize g.flowLinksInto place = links at inside ⊢
  induction links generalizing w with
  | nil => exact Nat.le_refl _
  | cons l links ih =>
    have first := workLeft_meet_le (inside l List.mem_cons_self) w
    exact Nat.le_trans (ih _ fun k hk => inside k (List.mem_cons_of_mem l hk)) first

/-- Look at the places that wait, one after the other, until none is left. -/
def walkBack (g : IndexedGraph) : Backwalk → Std.HashSet Nat
  | ⟨[], seen⟩ => seen
  | ⟨place :: rest, seen⟩ => g.walkBack (g.lookBack place ⟨rest, seen⟩)
termination_by w => g.workLeft w
decreasing_by
  refine Nat.lt_of_le_of_lt (g.workLeft_lookBack_le place ⟨rest, seen⟩) ?_
  simp only [workLeft, List.length_cons]
  omega

def terminalPlaces (g : IndexedGraph) : List Nat :=
  (List.range g.nodes.size).filter fun i => g.nodes[i]?.any (·.kind.isTerminal)

/-- Ids of terminal nodes and of all nodes with a flow path to one. -/
def reachingTerminals (g : IndexedGraph) : Std.HashSet NodeId :=
  let terminals := g.terminalPlaces
  let seen := g.walkBack ⟨terminals, .ofList terminals⟩
  .ofList (seen.toList.filterMap fun i => g.nodes[i]?.map (·.id))

/-- Ids and edges in their own order, whatever the order in which they were added. -/
def fingerprint (g : IndexedGraph) : List NodeId × List Edge :=
  (g.index.keys.mergeSort (fun a b => a ≤ b), g.edges.mergeSort Graph.edgeLe)

def toGraph (g : IndexedGraph) : Graph where
  unit := g.unit
  nodes := g.nodes.toList
  edges := g.edges
  diagnostics := g.diagnostics.toList

end IndexedGraph

/-- A call that changes a stored graph: a step of building it, or taking its diagnostics away. -/
inductive GraphCall where
  | step (s : GraphStep)
  | takeDiagnostics
  deriving DecidableEq, Repr

namespace IndexedGraph

/-- Take a step. An edge without one of its ends changes nothing. -/
def step (g : IndexedGraph) : GraphStep → IndexedGraph
  | .node n => (g.addNode n).1
  | .edge e => (g.addEdge e).1
  | .note d => g.pushDiagnostic d

def call (g : IndexedGraph) : GraphCall → IndexedGraph
  | .step s => g.step s
  | .takeDiagnostics => g.takeDiagnostics.1

def after (unit : String) (calls : List GraphCall) : IndexedGraph :=
  calls.foldl call { unit := unit }

end IndexedGraph

end SecretFlow

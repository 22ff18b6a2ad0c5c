import SecretFlow.Diagnostic

set_option autoImplicit false
set_option relaxedAutoImplicit false

/-!
Flow graphs. Nodes and edges keep the order in which they were added; a node is added once per
id, an edge once per pair of ends and relation.
-/

namespace SecretFlow

structure Graph where
  unit : String
  nodes : List Node := []
  edges : List Edge := []
  diagnostics : List Diagnostic := []
  deriving DecidableEq, Repr

/-- The end of an edge that is not a node of the graph. -/
structure MissingEndpoint where
  id : NodeId
  deriving DecidableEq, Repr

def MissingEndpoint.message (e : MissingEndpoint) : String :=
  s!"edge endpoint '{e.id}' is not a node of this graph"

namespace Graph

def node? (g : Graph) (id : NodeId) : Option Node :=
  g.nodes.find? (·.id = id)

def contains (g : Graph) (id : NodeId) : Bool :=
  g.nodes.any (·.id = id)

/-- Add a node unless its id is taken. -/
def addNode (g : Graph) (n : Node) : Graph :=
  if g.contains n.id then g else { g with nodes := g.nodes ++ [n] }

def hasEdge (g : Graph) (e : Edge) : Bool :=
  g.edges.contains e

/-- Add an edge between two nodes unless it is there; the first end that is no node is
reported. -/
def addEdge (g : Graph) (e : Edge) : Except MissingEndpoint Graph :=
  if !g.contains e.source then .error ⟨e.source⟩
  else if !g.contains e.target then .error ⟨e.target⟩
  else if g.hasEdge e then .ok g
  else .ok { g with edges := g.edges ++ [e] }

def addDiagnostic (g : Graph) (d : Diagnostic) : Graph :=
  { g with diagnostics := g.diagnostics ++ [d] }

/-- Order of nodes reached by an edge: by relation, then by id. -/
def stepLe (a b : Relation × Node) : Bool :=
  if a.1 = b.1 then a.2.id ≤ b.2.id else a.1.rank ≤ b.1.rank

/-- The nodes that secrets flow to from an id, in the order in which they are explored. -/
def successors (g : Graph) (id : NodeId) : List (Relation × Node) :=
  let out := g.edges.filter fun e => e.source = id && e.relation.isFlow
  (out.filterMap fun e => (g.node? e.target).map fun n => (e.relation, n)).mergeSort stepLe

def inDegree (g : Graph) (id : NodeId) : Nat :=
  g.edges.countP (·.target = id)

def sources (g : Graph) : List Node :=
  (g.nodes.filter (·.kind = .secretDeclaration)).mergeSort fun a b => a.id ≤ b.id

/-- Ids from which a flow edge leads into a set of ids without being in a second one. -/
def flowSources (g : Graph) (into without : List NodeId) : List NodeId :=
  ((g.edges.filter fun e =>
    e.relation.isFlow && into.contains e.target && !without.contains e.source).map
      (·.source)).eraseDups

/-- Walk flow edges backwards, one round per step, until a round finds nothing new. -/
def backwards (g : Graph) : Nat → List NodeId → List NodeId → List NodeId
  | 0, seen, _ => seen
  | rounds + 1, seen, frontier =>
      let next := g.flowSources frontier seen
      if next.isEmpty then seen else backwards g rounds (seen ++ next) next

/-- Ids of terminal nodes and of all nodes with a flow path to one. Each round but the last finds
a node, so there are no more rounds than nodes. -/
def reachingTerminals (g : Graph) : List NodeId :=
  let terminals := (g.nodes.filter (·.kind.isTerminal)).map (·.id)
  g.backwards g.nodes.length terminals terminals

/-- Order of edges: by source, then by target, then by relation. -/
def edgeLe (a b : Edge) : Bool :=
  if a.source = b.source then
    if a.target = b.target then a.relation.rank ≤ b.relation.rank else a.target ≤ b.target
  else a.source ≤ b.source

/-- Ids and edges in their own order, whatever the order in which they were added. -/
def fingerprint (g : Graph) : List NodeId × List Edge :=
  ((g.nodes.map (·.id)).mergeSort (fun a b => a ≤ b), g.edges.mergeSort edgeLe)

end Graph

end SecretFlow

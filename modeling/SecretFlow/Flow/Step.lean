import SecretFlow.Graph.Basic

set_option autoImplicit false
set_option relaxedAutoImplicit false

/-!
The steps in which a flow graph is built. What the steps are never depends on the graph so far.
-/

namespace SecretFlow

inductive GraphStep where
  | node (n : Node)
  | edge (e : Edge)
  | note (d : Diagnostic)
  deriving DecidableEq, Repr

namespace Graph

/-- Take a step. An edge without one of its ends changes nothing. -/
def step (g : Graph) : GraphStep → Graph
  | .node n => g.addNode n
  | .edge e =>
      match g.addEdge e with
      | .ok g => g
      | .error _ => g
  | .note d => g.addDiagnostic d

def run (g : Graph) (steps : List GraphStep) : Graph :=
  steps.foldl step g

end Graph

namespace GraphStep

/-- The step to an edge, unless it would lead back to where it starts. -/
def edgeBetween (source target : NodeId) (relation : Relation) : List GraphStep :=
  if source = target then [] else [.edge ⟨source, target, relation⟩]

def rootId : NodeId := "root"

def declaration (id : NodeId) (origin : Origin) (payload : Payload) : List GraphStep :=
  .node ⟨id, .secretDeclaration, some origin, payload⟩ :: edgeBetween rootId id .declares

end GraphStep

end SecretFlow

import SecretFlow.Flow.Step

set_option autoImplicit false
set_option relaxedAutoImplicit false

/-!
What the names in a container or script hold: the node of the value, for those that may hold a
secret.
-/

namespace SecretFlow

/-- The node that holds the value of a name. It is bound directly if the node declares a secret. -/
structure Binding where
  node : NodeId
  direct : Bool
  exported : Bool
  deriving DecidableEq, Repr

namespace Binding

def toDeclaration (id : NodeId) : Binding :=
  ⟨id, true, true⟩

/-- The binding to a node that passes a secret on to child processes too. -/
def toReference (id : NodeId) : Binding :=
  ⟨id, false, true⟩

/-- The step that leads from the bound node to one that uses it. -/
def link (b : Binding) (target : NodeId) : List GraphStep :=
  GraphStep.edgeBetween b.node target (if b.direct then .injectsInto else .referencedBy)

end Binding

structure Scope where
  /-- Names that may hold a secret. -/
  vars : List (String × Binding) := []
  /-- Names that are known to hold no secret. -/
  clean : List String := []
  /-- Secrets whose keys are not known: how the names of their variables start, and the node. -/
  unknown : List (String × NodeId) := []
  /-- Paths below which a secret is mounted, and the node. -/
  mounts : List (String × NodeId) := []
  deriving DecidableEq, Repr

namespace Scope

def get? (s : Scope) (name : String) : Option Binding :=
  (s.vars.find? (·.1 = name)).map (·.2)

def bind (s : Scope) (name : String) (b : Binding) : Scope :=
  { s with
    vars := (name, b) :: s.vars.filter (·.1 ≠ name)
    clean := s.clean.filter (· ≠ name) }

def clear (s : Scope) (name : String) : Scope :=
  { s with
    vars := s.vars.filter (·.1 ≠ name)
    clean := name :: s.clean.filter (· ≠ name) }

def exported (s : Scope) : Scope :=
  { s with vars := s.vars.filter (·.2.exported) }

/-- Keep the first of bindings next to each other that have one node. -/
def dropRepeats : List Binding → List Binding
  | [] => []
  | b :: rest =>
      match dropRepeats rest with
      | [] => [b]
      | c :: others => if b.node = c.node then b :: others else b :: c :: others

/-- All bindings to nodes that may hold a secret, by node, each node once. -/
def tainted (s : Scope) : List Binding :=
  let all := s.vars.map (·.2) ++ s.unknown.map (fun u => .toDeclaration u.2) ++
    s.mounts.map (fun m => .toReference m.2)
  dropRepeats (all.mergeSort fun a b => a.node ≤ b.node)

end Scope

end SecretFlow

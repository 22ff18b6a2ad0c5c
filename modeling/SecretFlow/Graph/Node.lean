import SecretFlow.Sink.Kind

set_option autoImplicit false
set_option relaxedAutoImplicit false

/-!
Nodes and edges of a flow graph.
-/

namespace SecretFlow

/-- Where something stands in the input: a field of a manifest or a line of a script. -/
inductive Origin where
  | manifest (file field : String)
  | script (name : String) (line : Nat)
  deriving DecidableEq, Repr

namespace Origin

def fileLabel : Origin → String
  | manifest file _ => file
  | script name _ => name

def line? : Origin → Option Nat
  | manifest _ _ => none
  | script _ line => some line

def text : Origin → String
  | manifest file field => s!"{file}#{field}"
  | script name line => s!"{name}:{line}"

end Origin

inductive UnresolvedCause where
  | notFound
  | unreadable
  | depthExceeded
  deriving DecidableEq, Repr

namespace UnresolvedCause

def word : UnresolvedCause → String
  | notFound => "not_found"
  | unreadable => "unreadable"
  | depthExceeded => "depth_exceeded"

def ofWord? (w : String) : Option UnresolvedCause :=
  [notFound, unreadable, depthExceeded].find? (·.word = w)

end UnresolvedCause

inductive NodeKind where
  | manifestRoot
  | secretDeclaration
  | envVarRef
  | volumeMountRef
  | commandArg
  | scriptStatement
  | externalSink (sink : SinkKind) (pattern : String)
  | unresolved (cause : UnresolvedCause)
  deriving DecidableEq, Repr

namespace NodeKind

def label : NodeKind → String
  | manifestRoot => "manifest_root"
  | secretDeclaration => "secret_declaration"
  | envVarRef => "env_var_ref"
  | volumeMountRef => "volume_mount_ref"
  | commandArg => "command_arg"
  | scriptStatement => "script_statement"
  | externalSink _ _ => "external_sink"
  | unresolved _ => "unresolved"

def isUnresolved : NodeKind → Bool
  | unresolved _ => true
  | _ => false

/-- Leak paths end at sinks and at scripts that could not be inspected. -/
def isTerminal : NodeKind → Bool
  | externalSink _ _ => true
  | unresolved _ => true
  | _ => false

end NodeKind

inductive Payload where
  | none
  | secret (secret : String) (key : Option String) (exposedAs : String)
  | name (name : String)
  | path (path : String)
  | text (text : String)
  deriving DecidableEq, Repr

def Payload.summary : Payload → String
  | none => ""
  | secret s (some key) _ => s!"{s}/{key}"
  | secret s Option.none _ => s
  | name n => n
  | path p => p
  | text t => t

abbrev NodeId := String

structure Node where
  id : NodeId
  kind : NodeKind
  origin : Option Origin
  payload : Payload
  deriving DecidableEq, Repr

inductive Relation where
  | declares
  | injectsInto
  | referencedBy
  | flowsTo
  deriving DecidableEq, Repr

namespace Relation

def rank : Relation → Nat
  | declares => 0
  | injectsInto => 1
  | referencedBy => 2
  | flowsTo => 3

def word : Relation → String
  | declares => "declares"
  | injectsInto => "injects_into"
  | referencedBy => "referenced_by"
  | flowsTo => "flows_to"

def ofWord? (w : String) : Option Relation :=
  [declares, injectsInto, referencedBy, flowsTo].find? (·.word = w)

/-- Secrets flow along every relation but the declaration itself. -/
def isFlow (r : Relation) : Bool :=
  r ≠ declares

end Relation

structure Edge where
  source : NodeId
  target : NodeId
  relation : Relation
  deriving DecidableEq, Repr

end SecretFlow

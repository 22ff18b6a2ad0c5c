import SecretFlow.Flow.Place
import SecretFlow.Flow.Scope

set_option autoImplicit false
set_option relaxedAutoImplicit false

/-!
Looking up names and mounted paths in a scope. A name that nothing is known about may be a
variable from a secret whose keys are not known; looking it up gives it a node.
-/

namespace SecretFlow

def wellKnownVariables : List String :=
  ["HOME", "PATH", "PWD", "OLDPWD", "SHELL", "HOSTNAME", "USER", "UID", "EUID", "IFS",
    "RANDOM", "LINENO", "SECONDS", "PPID", "TERM", "LANG", "LC_ALL", "TMPDIR", "OPTARG",
    "OPTIND", "REPLY", "HOSTTYPE", "BASH_SOURCE", "BASH_VERSION", "FUNCNAME", "PS1", "PS4"]

/-- Whether a name is never a variable from a secret. -/
def isProvided (name : String) : Bool :=
  wellKnownVariables.contains name || "KUBERNETES_".toList.isPrefixOf name.toList

/-- What a look-up finds, the scope after it, and the steps it takes. -/
structure Found where
  bindings : List Binding := []
  scope : Scope
  steps : List GraphStep := []

namespace Place

def lookup (p : Place) (scope : Scope) (name : String) : Found :=
  match scope.get? name with
  | some b => { bindings := [b], scope }
  | none =>
      if scope.clean.contains name || isProvided name then { scope }
      else
        let sources := scope.unknown.filter fun u => u.1.toList.isPrefixOf name.toList
        if sources.isEmpty then { scope }
        else
          let id := p.id s!"envref:{name}"
          let b := Binding.toReference id
          { bindings := [b]
            scope := scope.bind name b
            steps := .node ⟨id, .envVarRef, some (p.origin p.field), .name name⟩ ::
              sources.flatMap fun u => GraphStep.edgeBetween u.2 id .injectsInto }

def lookupNext (p : Place) (found : Found) (name : String) : Found :=
  let next := p.lookup found.scope name
  ⟨found.bindings ++ next.bindings, next.scope, found.steps ++ next.steps⟩

def lookupAll (p : Place) (scope : Scope) (names : List String) : Found :=
  names.foldl p.lookupNext { scope }

/-- Look up the names that a text mentions, and the mounted paths that stand in it. -/
def references (p : Place) (scope : Scope) (names : List String) (text : String) : Found :=
  let found := p.lookupAll scope names
  let mounted := found.scope.mounts.filter fun m => Text.occurs m.1.toList text.toList
  { found with bindings := found.bindings ++ mounted.map fun m => .toReference m.2 }

end Place

/-- Names followed by those of a second list that are not among them. -/
def addNames (names more : List String) : List String :=
  more.foldl (fun ns n => if ns.contains n then ns else ns ++ [n]) names

/-- The steps that lead from bindings to a node that uses them. -/
def linkAll (bindings : List Binding) (target : NodeId) : List GraphStep :=
  bindings.flatMap (·.link target)

end SecretFlow

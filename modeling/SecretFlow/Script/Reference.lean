set_option autoImplicit false
set_option relaxedAutoImplicit false

/-!
References to scripts, and what it means to resolve them.
-/

namespace SecretFlow

/-- How a manifest or script names a script: by the path of a file in the container, as a key of
a config map, or by its own text. -/
inductive ScriptRef where
  | path (path : String)
  | configMap (name key : String)
  | inline (label text : String)
  deriving DecidableEq, Repr

/-- The label of a reference. Two references with one label mean the same script. -/
def ScriptRef.key : ScriptRef → String
  | path p => s!"file:{p}"
  | configMap name key => s!"configmap:{name}/{key}"
  | inline label _ => s!"inline:{label}"

inductive ResolveError where
  | notFound (label : String)
  | unreadable (label : String)
  deriving DecidableEq, Repr

def ResolveError.message : ResolveError → String
  | notFound label => s!"script not found: {label}"
  | unreadable label => s!"script unreadable: {label}"

abbrev Resolver := ScriptRef → Except ResolveError String

namespace Resolver

/-- Scripts by their label; a script given by its own text needs no entry. -/
def ofTable (scripts : List (String × String)) : Resolver
  | .inline _ text => .ok text
  | ref =>
      match scripts.find? (·.1 = ref.key) with
      | some (_, text) => .ok text
      | none => .error (.notFound ref.key)

end Resolver

end SecretFlow

import SecretFlow.Glob
import SecretFlow.Sink.Rule

set_option autoImplicit false
set_option relaxedAutoImplicit false

/-!
Reasons for which a scan does not take place.
-/

namespace SecretFlow

inductive ConfigFault where
  | identifierBounds (minLength maxLength : Nat)
  | excludeGlob (pattern : String) (error : Glob.GlobError)
  deriving DecidableEq, Repr

def ConfigFault.message : ConfigFault → String
  | identifierBounds lo hi =>
      s!"identifiers.min_length ({lo}) is greater than max_length ({hi})"
  | excludeGlob pattern error => s!"invalid exclude glob '{pattern}': {error.message}"

inductive Failure where
  | missingRoot (root : String)
  | config (fault : ConfigFault)
  | sinkPattern (error : SinkPatternError)
  | io (message : String)
  | output (message : String)
  | toml
  deriving DecidableEq, Repr

def Failure.message : Failure → String
  | missingRoot root => s!"Scan root does not exist or is not readable: {root} does not exist"
  | config fault => s!"Configuration error: {fault.message}"
  | sinkPattern error => s!"Invalid sink pattern '{error.name}'"
  | io message => s!"IO error: {message}"
  | output message => s!"Output error: {message}"
  | toml => "TOML parse error"

end SecretFlow

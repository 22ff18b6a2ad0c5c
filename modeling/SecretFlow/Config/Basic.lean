import SecretFlow.Identifier
import SecretFlow.Policy
import SecretFlow.Sink.Rule

set_option autoImplicit false
set_option relaxedAutoImplicit false

/-!
What a scan can be told, and what it does without being told.
-/

namespace SecretFlow

structure AnalysisSettings where
  maxReferenceDepth : Nat := 10
  maxPathEdges : Nat := 16
  maxFindingsPerUnit : Nat := 1000
  maxExploredEdges : Nat := 200000
  deriving DecidableEq, Repr

/-- Which statements count as sinks: the built-in patterns, if they are used, and further ones,
without those of certain names. -/
structure SinkSettings where
  useDefaults : Bool := true
  disabled : List String := []
  patterns : List SinkPattern := []
  deriving DecidableEq, Repr

def SinkSettings.effective (s : SinkSettings) : List SinkPattern :=
  ((if s.useDefaults then SinkPattern.builtin else []) ++ s.patterns).filter fun p =>
    !s.disabled.contains p.name

/-- How manifests are found: patterns of paths to leave out, and limits on the size of files and
the depth of directories. -/
structure ScanSettings where
  exclude : List String := []
  maxFileBytes : Nat := 1048576
  maxDepth : Nat := 16
  deriving DecidableEq, Repr

structure Config where
  policy : Policy := {}
  analysis : AnalysisSettings := {}
  sinks : SinkSettings := {}
  identifiers : IdentifierPolicy := {}
  scan : ScanSettings := {}
  deriving DecidableEq, Repr

end SecretFlow

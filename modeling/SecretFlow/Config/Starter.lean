set_option autoImplicit false
set_option relaxedAutoImplicit false

/-!
A first settings file, with every setting at its default or as an example in a comment.
-/

namespace SecretFlow.Config

private def starterLines : List String := [
  "# kubetaint configuration",
  "",
  "[policy]",
  "# Minimum confidence that fails the scan (low, medium, high).",
  "fail_on = \"medium\"",
  "",
  "# Secrets whose findings are ignored.",
  "# ignore_secrets = [\"demo-credentials\"]",
  "",
  "# Heuristics to ignore (direct_exposure, indirect_exposure,",
  "# distant_exposure, unverifiable_reference).",
  "# ignore_reasons = [\"unverifiable_reference\"]",
  "",
  "[analysis]",
  "max_reference_depth = 10",
  "max_path_edges = 16",
  "max_findings_per_unit = 1000",
  "max_explored_edges = 200000",
  "",
  "[sinks]",
  "use_defaults = true",
  "# disabled = [\"cat\"]",
  "",
  "# [[sinks.patterns]]",
  "# name = \"vault-write\"",
  "# kind = \"network\"",
  "# regex = '\\bvault\\s+write\\b'",
  "",
  "[identifiers]",
  "min_length = 6",
  "max_length = 64",
  "",
  "[scan]",
  "# exclude = [\"charts/**/templates/**\"]",
  "max_file_bytes = 1048576"]

def starterText : String :=
  String.join (starterLines.map (· ++ "\n"))

end SecretFlow.Config

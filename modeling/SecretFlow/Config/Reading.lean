import SecretFlow.Config.Basic
import SecretFlow.Config.Failure
import SecretFlow.Files.Tree
import SecretFlow.Text.Table
import SecretFlow.Toml.Document

set_option autoImplicit false
set_option relaxedAutoImplicit false

/-!
Settings from a TOML document. What is not mentioned keeps its default, and what is not known is
ignored. A group of settings may also be given as an array, in the order of its fields.
-/

namespace SecretFlow.Config

open SecretFlow.Toml (Value)

/-- The fields of a group of settings by position and name. A date is a group that holds none of
them. -/
private def fields? : Value → Option (Nat → String → Option Value)
  | .table _ entries => some fun _ name => Toml.Entries.get? entries name
  | .array _ items => some fun i _ => items[i]?
  | .date _ => some fun _ _ => none
  | _ => none

private def text? : Value → Option String
  | .text s => some s
  | _ => none

private def bool? : Value → Option Bool
  | .bool b => some b
  | _ => none

private def count? : Value → Option Nat
  | .integer n => if 0 ≤ n then some n.toNat else none
  | _ => none

private def list? {α : Type} (read : Value → Option α) : Value → Option (List α)
  | .array _ items => items.mapM read
  | _ => none

/-- A word of a fixed list; it may also be the only key of a table, with nothing under it. -/
private def word? : Value → Option String
  | .text s => some s
  | .table _ [(key, .array _ [])] => some key
  | .table _ [(key, .table _ [])] => some key
  | _ => none

private def known? {α : Type} (ofWord : String → Option α) (v : Value) : Option α :=
  (word? v).bind ofWord

/-- A field that is there is read, and one that is not keeps its default. -/
private def optional {α : Type} (read : Value → Option α) (fallback : α) : Option Value → Option α
  | none => some fallback
  | some v => read v

private def policy? (v : Value) : Option Policy := do
  let field ← fields? v
  return {
    failOn := ← optional (known? Confidence.ofWord?) .medium (field 0 "fail_on")
    ignoreSecrets := Text.sortedNames
      (← optional (list? text?) [] (field 1 "ignore_secrets"))
    ignoreReasons := (← optional (list? (known? LeakReason.ofWord?)) []
      (field 2 "ignore_reasons")).eraseDups }

private def analysis? (v : Value) : Option AnalysisSettings := do
  let field ← fields? v
  return {
    maxReferenceDepth := ← optional count? 10 (field 0 "max_reference_depth")
    maxPathEdges := ← optional count? 16 (field 1 "max_path_edges")
    maxFindingsPerUnit := ← optional count? 1000 (field 2 "max_findings_per_unit")
    maxExploredEdges := ← optional count? 200000 (field 3 "max_explored_edges") }

private def pattern? (v : Value) : Option SinkPattern := do
  let field ← fields? v
  return ⟨← text? (← field 0 "name"), ← known? SinkKind.ofWord? (← field 1 "kind"),
    ← text? (← field 2 "regex")⟩

private def sinks? (v : Value) : Option SinkSettings := do
  let field ← fields? v
  return {
    useDefaults := ← optional bool? true (field 0 "use_defaults")
    disabled := ← optional (list? text?) [] (field 1 "disabled")
    patterns := ← optional (list? pattern?) [] (field 2 "patterns") }

private def identifiers? (v : Value) : Option IdentifierPolicy := do
  let field ← fields? v
  return {
    minLength := ← optional count? 6 (field 0 "min_length")
    maxLength := ← optional count? 64 (field 1 "max_length") }

private def scan? (v : Value) : Option ScanSettings := do
  let field ← fields? v
  return {
    exclude := ← optional (list? text?) [] (field 0 "exclude")
    maxFileBytes := ← optional count? 1048576 (field 1 "max_file_bytes")
    maxDepth := ← optional count? 16 (field 2 "max_depth") }

/-- The settings of a document, if all it mentions has the right shape. -/
private def ofEntries? (entries : Toml.Entries) : Option Config := do
  let field (name : String) := entries.get? name
  return {
    policy := ← optional policy? {} (field "policy")
    analysis := ← optional analysis? {} (field "analysis")
    sinks := ← optional sinks? {} (field "sinks")
    identifiers := ← optional identifiers? {} (field "identifiers")
    scan := ← optional scan? {} (field "scan") }

private def globFault? (pattern : String) : Option ConfigFault :=
  match Glob.read pattern with
  | .ok _ => none
  | .error e => some (.excludeGlob pattern e)

def fault? (c : Config) : Option ConfigFault :=
  if c.identifiers.maxLength < c.identifiers.minLength then
    some (.identifierBounds c.identifiers.minLength c.identifiers.maxLength)
  else c.scan.exclude.findSome? globFault?

def ofText (text : String) : Except Failure Config :=
  match (Toml.readDocument? text).bind ofEntries? with
  | none => .error .toml
  | some c =>
      match c.fault? with
      | some fault => .error (.config fault)
      | none => .ok c

def fileName : String := ".kubetaint.toml"

/-- The settings of a file; without a file nothing is set. -/
def load (files : FileTree) (path : String) : Except Failure Config :=
  if !files.holds path then .ok {}
  else
    match files.read path with
    | .error e => .error (.io e.message)
    | .ok bytes =>
        if Text.Utf8.isValid bytes then ofText (String.ofList (Text.Utf8.decode bytes))
        else .error (.io "stream did not contain valid UTF-8")

end SecretFlow.Config

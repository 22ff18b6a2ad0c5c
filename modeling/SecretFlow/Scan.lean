import SecretFlow.Config.Reading
import SecretFlow.Flow.Build
import SecretFlow.Leak.Mining
import SecretFlow.Manifest.Discovery
import SecretFlow.Manifest.File
import SecretFlow.Report.Basic
import SecretFlow.Script.Source

set_option autoImplicit false
set_option relaxedAutoImplicit false

/-!
Scans: load the manifests below a root, build and mine a flow graph for each, and judge what was
found.
-/

namespace SecretFlow

/-- The folder of a root: the root itself, or the folder of a root that is a file. -/
def rootFolder (files : FileTree) (root : String) : String :=
  if files.isFile root then (Path.parent? root).getD "." else root

/-- The settings for a root: those of a given file, or of the usual file in the folder of the
root. -/
def configFor (files : FileTree) (root : String) (configPath : Option String) :
    Except Failure Config :=
  Config.load files (configPath.getD (Path.join (rootFolder files root) Config.fileName))

structure Batch where
  manifests : List Manifest := []
  skipped : List SkippedUnit := []

namespace Batch

def skip (e : LoadError) : SkippedUnit :=
  ⟨e.file, e.docIndex?, e.message⟩

/-- Sort what was loaded into manifests and skipped units, each in order. -/
def ofLoaded (loaded : List (Except LoadError Manifest)) : Batch where
  manifests := loaded.filterMap fun
    | .ok m => some m
    | .error _ => none
  skipped := loaded.filterMap fun
    | .ok _ => none
    | .error e => some (skip e)

def ofFiles (fs : List ManifestFile) : Batch :=
  ofLoaded (fs.flatMap ManifestFile.load)

def load (files : FileTree) (root : String) (options : LoadOptions) : Except Failure Batch :=
  match manifestFiles files root options with
  | .ok paths => .ok (ofFiles (paths.map (ManifestFile.read files options.maxFileBytes)))
  | .error e => .error e

end Batch

structure Analysis where
  files : FileTree
  scanRoot : String
  cluster : Cluster
  options : FlowOptions
  limits : MiningLimits
  maxScriptBytes : Nat

namespace Analysis

def sourceOf (a : Analysis) (m : Manifest) : ScriptSource where
  files := a.files
  manifestDir := (Path.parent? m.file).getD a.scanRoot
  scanRoot := a.scanRoot
  cluster := a.cluster
  maxBytes := a.maxScriptBytes

/-- The flow graph of a manifest whose scripts are found in a given way. -/
def graphWith (a : Analysis) (resolve : Resolver) (m : Manifest) : Graph :=
  m.flowGraph a.options (some a.cluster) resolve

def graph (a : Analysis) (m : Manifest) : Graph :=
  a.graphWith (a.sourceOf m).resolve m

def truncationNote (mined : Mined) : List Diagnostic :=
  match mined.truncated with
  | some .findings =>
      [⟨.findingLimit, s!"stopped after {mined.findings.length} findings", none⟩]
  | some .work =>
      [⟨.workLimit, s!"stopped after traversing {mined.explored} edges with " ++
        s!"{mined.findings.length} findings", none⟩]
  | none => []

/-- Build and mine the flow graph of a manifest whose scripts are found in a given way. -/
def unitReportWith (a : Analysis) (resolve : Resolver) (m : Manifest) : UnitReport :=
  let g := a.graphWith resolve m
  let mined := g.mine a.limits
  { unit := m.unitId
    file := m.file
    kind := m.kind
    name := m.name
    contentHash := m.contentHash
    findings := mined.findings
    diagnostics := g.diagnostics ++ truncationNote mined
    nodeCount := g.nodes.length
    edgeCount := g.edges.length }

def unitReport (a : Analysis) (m : Manifest) : UnitReport :=
  a.unitReportWith (a.sourceOf m).resolve m

/-- Analyse manifests. Before each of them it is checked, by its position, whether the scan has been
cancelled; if so, there is no report on it. -/
def unitReports (a : Analysis) (cancelled : Nat → Bool) (ms : List Manifest) :
    List (Option UnitReport) :=
  ms.mapIdx fun i m => if cancelled i then none else some (a.unitReport m)

end Analysis

/-- What the analysis of a batch needs, by the settings of a scan and its rules for sinks. -/
def Analysis.ofBatch (files : FileTree) (root : String) (config : Config) (rules : List SinkRule)
    (batch : Batch) : Analysis where
  files := files
  scanRoot := rootFolder files root
  cluster := Cluster.ofManifests batch.manifests
  options := ⟨config.analysis.maxReferenceDepth, rules, config.identifiers⟩
  limits := ⟨config.analysis.maxPathEdges, config.analysis.maxFindingsPerUnit,
    config.analysis.maxExploredEdges⟩
  maxScriptBytes := config.scan.maxFileBytes

def prepare (files : FileTree) (root : String) (config : Config) :
    Except Failure (Batch × Analysis) := do
  let options ← LoadOptions.ofSettings config.scan
  let batch ← Batch.load files root options
  match SinkRule.ofPatterns config.sinks.effective with
  | .error e => .error (.sinkPattern e)
  | .ok rules => .ok (batch, .ofBatch files root config rules batch)

/-- Judge the findings of all units, and leave out of each unit those that do not count. -/
def Policy.report (p : Policy) (root : String) (units : List UnitReport)
    (skipped : List SkippedUnit) (cancelled : Nat) : ScanReport where
  root := root
  units := units.map fun u => { u with findings := p.apply u.findings }
  skipped := skipped
  cancelled := cancelled
  verdict := p.judge (units.flatMap (·.findings))

structure ScanOptions where
  configPath : Option String := none
  failOn : Option Confidence := none
  cancelled : Bool := false

/-- The policy of a scan: that of the settings, with the threshold that is asked for. -/
def ScanOptions.policy (options : ScanOptions) (config : Config) : Policy :=
  { config.policy with failOn := options.failOn.getD config.policy.failOn }

/-- Scan the manifests below a root, unless the scan is found to be cancelled when it comes to the
manifest of a position. Manifests that are not analysed are counted. -/
def scanUnless (cancelled : Nat → Bool) (files : FileTree) (root : String) (options : ScanOptions) :
    Except Failure ScanReport := do
  let config ← configFor files root options.configPath
  let (batch, analysis) ← prepare files root config
  let reports := analysis.unitReports cancelled batch.manifests
  return (options.policy config).report root (reports.filterMap id) batch.skipped
    (reports.countP (·.isNone))

/-- Scan the manifests below a root. A scan that is cancelled from the start analyses none of
them. -/
def scan (files : FileTree) (root : String) (options : ScanOptions) : Except Failure ScanReport :=
  scanUnless (fun _ => options.cancelled) files root options

def flowGraphs (files : FileTree) (root : String) (config : Config) :
    Except Failure (List Graph) := do
  let (batch, analysis) ← prepare files root config
  return batch.manifests.map analysis.graph

end SecretFlow

import SecretFlow.Proofs.LeakPaths
import SecretFlow.Proofs.TypedGraphs

set_option autoImplicit false
set_option relaxedAutoImplicit false

/-!
The declarations of a flow graph. Every field that brings in a secret declares a node below the
root, and nothing else does. Fields of one container can share an id: several mounts of a volume,
several imports of a secret, several variables of one name. A node is added once per id, so the
declaration describes the first of the fields that share it, and so do the findings that start
there.
-/

namespace SecretFlow

namespace GraphStep

def made (steps : List GraphStep) : List Node :=
  steps.filterMap fun
    | .node n => some n
    | _ => none

private theorem mem_made {steps : List GraphStep} {n : Node} :
    n ∈ made steps ↔ .node n ∈ steps := by
  simp only [made, List.mem_filterMap]
  constructor
  · rintro ⟨s, hs, eq⟩
    cases s with
    | node a => exact Option.some.inj eq ▸ hs
    | edge | note => cases eq
  · intro hn
    exact ⟨.node n, hn, rfl⟩

def declared (steps : List GraphStep) : List Node :=
  (made steps).filter (·.kind = .secretDeclaration)

private theorem find?_declared {steps : List GraphStep} {id : NodeId} {n : Node}
    (first : (made steps).find? (·.id = id) = some n) (kind : n.kind = .secretDeclaration) :
    (declared steps).find? (·.id = id) = some n := by
  obtain ⟨same, before, after, eq, others⟩ := List.find?_eq_some_iff_append.mp first
  rw [declared, List.find?_filter, List.find?_eq_some_iff_append]
  refine ⟨by simpa [kind] using same, before, after, eq, ?_⟩
  intro a ha
  have other : a.id ≠ id := by simpa using others a ha
  simp [other]

@[simp] theorem declared_nil : declared [] = [] := rfl

@[simp] theorem declared_append (a b : List GraphStep) :
    declared (a ++ b) = declared a ++ declared b := by
  simp [declared, made]

@[simp] theorem declared_note (d : Diagnostic) (steps : List GraphStep) :
    declared (.note d :: steps) = declared steps := rfl

private theorem declared_node {n : Node} (other : n.kind ≠ .secretDeclaration)
    (steps : List GraphStep) : declared (.node n :: steps) = declared steps := by
  simp [declared, made, other]

@[simp] theorem declared_edgeBetween (source target : NodeId) (relation : Relation) :
    declared (edgeBetween source target relation) = [] := by
  unfold edgeBetween
  split <;> rfl

@[simp] theorem declared_flatMap {α : Type} (items : List α) (f : α → List GraphStep) :
    declared (items.flatMap f) = items.flatMap fun a => declared (f a) := by
  simp [declared, made, List.filterMap_flatMap, List.filter_flatMap]

@[simp] theorem declared_linkAll (bindings : List Binding) (target : NodeId) :
    declared (linkAll bindings target) = [] := by
  simp [linkAll, Binding.link]

@[simp] theorem declared_declaration (id : NodeId) (origin : Origin) (payload : Payload) :
    declared (declaration id origin payload) =
      [⟨id, .secretDeclaration, some origin, payload⟩] := by
  have links := declared_edgeBetween rootId id .declares
  simp only [declared, made] at links
  simp [declaration, declared, made, links]

end GraphStep

namespace Graph

private theorem node?_addNode (g : Graph) (n : Node) (id : NodeId) :
    (g.addNode n).node? id = (g.node? id).or ([n].find? (·.id = id)) := by
  simp only [node?, addNode_nodes]
  split
  · rename_i known
    by_cases same : n.id = id
    · obtain ⟨a, ha, taken⟩ := contains_iff.mp known
      have found : (g.nodes.find? (·.id = id)).isSome :=
        List.find?_isSome.mpr ⟨a, ha, by simpa using taken.trans same⟩
      rw [Option.or_of_isSome found]
    · simp [same]
  · rw [List.find?_append]

/-- The node of an id is the one the graph had, or else the first that a step makes under the id. -/
theorem node?_run (g : Graph) (steps : List GraphStep) (id : NodeId) :
    (g.run steps).node? id = (g.node? id).or ((GraphStep.made steps).find? (·.id = id)) := by
  induction steps generalizing g with
  | nil => simp [GraphStep.made]
  | cons s steps ih =>
    rw [run_cons, ih]
    cases s with
    | note d => rfl
    | edge e =>
      rw [step_edge]
      split <;> rfl
    | node n =>
      rw [step, node?_addNode, Option.or_assoc, ← List.find?_append]
      rfl

end Graph

open GraphStep (declared)

private theorem Walked.declared_foldl {α : Type} {f : Scope → α → Walked}
    (source? : α → Option Node)
    (part : ∀ scope a, declared (f scope a).steps = (source? a).toList) (parts : List α)
    (w : Walked) :
    declared (parts.foldl (andThen f) w).steps = declared w.steps ++ parts.filterMap source? := by
  induction parts generalizing w with
  | nil => simp
  | cons a rest ih =>
    rw [List.foldl_cons, ih, andThen, GraphStep.declared_append, part, List.append_assoc,
      List.filterMap_cons]
    cases source? a <;> rfl

namespace Place

variable (p : Place)

private theorem declared_lookup (scope : Scope) (name : String) :
    declared (p.lookup scope name).steps = [] := by
  unfold lookup
  split
  · rfl
  · split
    · rfl
    · dsimp only
      split
      · rfl
      · simp [GraphStep.declared_node]

private theorem declared_lookupAll (scope : Scope) (names : List String) :
    declared (p.lookupAll scope names).steps = [] := by
  refine List.foldlRecOn (motive := fun found : Found => declared found.steps = []) _ _ rfl ?_
  intro found none name _
  simp [lookupNext, none, declared_lookup]

private theorem declared_consumerSteps (rules : List SinkRule) (id : NodeId) (origin : Origin)
    (s : Shell.Statement) (mentioned : List Binding) :
    declared (consumerSteps rules id origin s mentioned) = [] := by
  unfold consumerSteps
  cases sinkOf? rules s <;> cases mentioned <;> simp [GraphStep.declared_node]

private theorem declared_statementAlone (rules : List SinkRule) (script : ScriptRef)
    (expanded : Bool) (scope : Scope) (s : Shell.Statement) :
    declared (p.statementAlone rules script expanded scope s).steps = [] := by
  simp [statementAlone, declared_consumerSteps, mentioned, references, declared_lookupAll]

private theorem declared_statement {walk : ScriptWalk}
    (hwalk : ∀ ref scope, declared (walk ref scope).steps = []) (rules : List SinkRule)
    (script : ScriptRef) (expanded : Bool) (scope : Scope) (s : Shell.Statement) :
    declared (p.statement rules walk script expanded scope s).steps = [] := by
  have alone := p.declared_statementAlone rules script expanded scope s
  unfold statement
  dsimp only
  split
  · exact alone
  · split <;> simp [alone, hwalk]

private theorem declared_deadEnd (scope : Scope) (key : String) (cause : UnresolvedCause) :
    declared (p.deadEnd scope key cause) = [] := by
  simp [deadEnd, GraphStep.declared_node]

private theorem declared_script (options : FlowOptions) (resolve : Resolver) (depth : Nat)
    (around : List String) (expanded : Bool) (ref : ScriptRef) (scope : Scope) :
    declared (p.script options resolve depth around expanded ref scope).steps = [] := by
  induction depth generalizing around expanded ref scope with
  | zero => simp [script, note, declared_deadEnd]
  | succ depth ih =>
    unfold script
    dsimp only
    split
    · rfl
    · split
      · simp [note, declared_deadEnd]
      · rename_i text _
        have walked := Walked.declared_foldl (fun _ => none)
          (p.declared_statement (ih (ref.key :: around) false) options.sinks ref expanded)
          (Shell.statements text) { scope }
        simpa [statements] using walked

private theorem declared_arguments (scope : Scope) (c : Container) :
    declared (p.arguments scope c).1.steps = [] := by
  refine List.foldlRecOn (motive := fun w : Walked × List NodeId => declared w.1.steps = [])
    _ _ rfl ?_
  intro w none arg _
  unfold argument
  dsimp only
  split
  · simp [none, references, declared_lookupAll]
  · simp [none, references, declared_lookupAll, GraphStep.declared_node]

private theorem declared_argv (options : FlowOptions) (resolve : Resolver) (scope : Scope)
    (c : Container) : declared (p.argv options resolve scope c) = [] := by
  unfold argv
  split
  · rfl
  · have launched (inner : Scope) (l : Launch) : declared (p.launch options resolve inner l) = [] :=
      p.declared_script options resolve _ _ _ _ _
    have sink (line : String) (mentioning : List NodeId) :
        declared (p.argumentSink options.sinks line mentioning) = [] := by
      unfold argumentSink
      split <;> simp [GraphStep.declared_node]
    simp only [GraphStep.declared_append, declared_arguments, GraphStep.declared_flatMap, launched]
    split <;> simp [sink]

end Place

/-- A field that brings a secret into a container: the id of its declaration, where it stands, and
what it says. -/
structure SecretSource where
  id : NodeId
  origin : Origin
  secret : String
  key : Option String
  exposedAs : String
  deriving DecidableEq, Repr

namespace SecretSource

def payload (s : SecretSource) : Payload :=
  .secret s.secret s.key s.exposedAs

def declaration (s : SecretSource) : Node :=
  ⟨s.id, .secretDeclaration, some s.origin, s.payload⟩

end SecretSource

namespace Place

variable (p : Place)

def importSource? (e : EnvImport) : Option SecretSource :=
  match e.source with
  | .secret secret =>
      some ⟨p.id s!"envFrom:{secret}", p.origin e.field, secret, none, e.start ++ "*"⟩
  | .configMap _ => none

def variableSource? (e : EnvVariable) : Option SecretSource :=
  match e.source with
  | .secretKey secret key =>
      some ⟨p.id s!"env:{e.name}", p.origin e.field, secret, some key, e.name⟩
  | _ => none

def mountSource? (volumes : List Volume) (m : VolumeMount) : Option SecretSource :=
  match (volume? volumes m.name).map Volume.source with
  | some (.secret secret _) =>
      some ⟨p.id s!"secret-volume:{m.name}", p.origin m.field, secret, m.subPath, m.mountPath⟩
  | _ => none

def secretSources (volumes : List Volume) (c : Container) : List SecretSource :=
  c.envFrom.filterMap p.importSource? ++ c.env.filterMap p.variableSource? ++
    c.mounts.filterMap (p.mountSource? volumes)

private theorem declared_envImport (cluster : Option Cluster) (scope : Scope) (e : EnvImport) :
    declared (p.envImport cluster scope e).steps =
      ((p.importSource? e).map (·.declaration)).toList := by
  unfold envImport importSource?
  cases e.source with
  | secret name =>
    dsimp only
    split <;> simp [SecretSource.declaration, SecretSource.payload]
  | configMap name => rfl

private theorem declared_envVariable (options : FlowOptions) (scope : Scope) (e : EnvVariable) :
    declared (p.envVariable options scope e).steps =
      ((p.variableSource? e).map (·.declaration)).toList := by
  have notes (value : String) : declared (p.userNameNotes options.identifiers e value) = [] := by
    unfold userNameNotes
    dsimp only
    split <;> rfl
  unfold envVariable variableSource?
  cases e.source with
  | secretKey secret key => simp [SecretSource.declaration, SecretSource.payload]
  | literal value =>
    dsimp only
    split <;> simp [notes, declared_lookupAll, GraphStep.declared_node]
  | configMapKey | downward | empty => rfl

private theorem declared_volumeMount (volumes : List Volume) (scope : Scope) (m : VolumeMount) :
    declared (p.volumeMount volumes scope m).steps =
      ((p.mountSource? volumes m).map (·.declaration)).toList := by
  unfold volumeMount mountSource?
  rcases (volume? volumes m.name).map Volume.source with _ | ⟨secret, items⟩ | _ | _
  · rfl
  · simp [SecretSource.declaration, SecretSource.payload, GraphStep.declared_node]
  · rfl
  · rfl

private theorem declared_container (file : String) (options : FlowOptions)
    (cluster : Option Cluster) (resolve : Resolver) (volumes : List Volume) (c : Container) :
    declared (container file options cluster resolve volumes c) =
      ((ofContainer file volumes c).secretSources volumes c).map (·.declaration) := by
  unfold container
  dsimp only
  rw [GraphStep.declared_append, declared_argv,
    Walked.declared_foldl _ (declared_volumeMount _ volumes),
    Walked.declared_foldl _ (declared_envVariable _ options),
    Walked.declared_foldl _ (declared_envImport _ cluster)]
  simp [secretSources, List.map_filterMap]

end Place

def Graph.Describes (g : Graph) (s : SecretSource) : Prop :=
  ∃ n, g.node? s.id = some n ∧ n.kind = .secretDeclaration ∧ n.payload = s.payload

namespace Manifest

def secretSources (m : Manifest) : List SecretSource :=
  match m.pod? with
  | none => []
  | some pod => pod.containers.flatMap fun c =>
      (Place.ofContainer m.file pod.volumes c).secretSources pod.volumes c

private theorem declared_flowSteps (m : Manifest) (options : FlowOptions) (cluster : Option Cluster)
    (resolve : Resolver) :
    declared (m.flowSteps options cluster resolve) = m.secretSources.map (·.declaration) := by
  have opening : declared m.openingSteps = [] := by
    rw [openingSteps, GraphStep.declared_node (by simp)]
    simp [declared, GraphStep.made, List.filterMap_map]
  unfold flowSteps secretSources
  cases m.pod? with
  | none => simp [opening]
  | some pod => simp [opening, Place.declared_container, List.map_flatMap]

section Sources

variable {m : Manifest} {options : FlowOptions} {cluster : Option Cluster} {resolve : Resolver}
  {s : SecretSource}

private theorem declaration_mem (hs : s ∈ m.secretSources) (options : FlowOptions)
    (cluster : Option Cluster) (resolve : Resolver) :
    .node s.declaration ∈ m.flowSteps options cluster resolve := by
  have declares : s.declaration ∈ declared (m.flowSteps options cluster resolve) := by
    rw [declared_flowSteps]
    exact List.mem_map.mpr ⟨s, hs, rfl⟩
  exact GraphStep.mem_made.mp (List.mem_filter.mp declares).1

private theorem declares_source (hs : s ∈ m.secretSources) :
    ⟨GraphStep.rootId, s.id, .declares⟩ ∈ (m.flowGraph options cluster resolve).edges := by
  have grounded := m.grounded_flowSteps options cluster resolve
  have hn := declaration_mem hs options cluster resolve
  have other : s.declaration.id ≠ GraphStep.rootId := by
    cases grounded.made hn with
    | root _ kind => cases kind
    | declaration named | carrier named | sink named | deadEnd named =>
      obtain ⟨pod, c, label, _, _, id, _⟩ := named
      rw [id]
      intro same
      simpa [GraphStep.rootId] using congrArg String.toList same
  exact grounded.edge_mem m.unitId (grounded.declares_mem hn rfl other)

private theorem exists_first (plain : m.PlainNames) (hs : s ∈ m.secretSources) :
    ∃ first, m.secretSources.find? (·.id = s.id) = some first ∧
      (m.flowGraph options cluster resolve).node? s.id = some first.declaration := by
  have grounded := m.grounded_flowSteps options cluster resolve
  obtain ⟨n, hn, id, label⟩ := grounded.exists_node
    (fun _ named => kindNamed_of_names plain named) m.unitId
    (declaration_mem hs options cluster resolve)
  have kind : n.kind = .secretDeclaration := NodeKind.eq_of_label label rfl
  have found : (m.flowGraph options cluster resolve).node? s.id = some n :=
    (wellFormed_graphOf _ _).node?_eq_some.mpr ⟨hn, id⟩
  rw [flowGraph, Graph.node?_run] at found
  have first := GraphStep.find?_declared found kind
  rw [declared_flowSteps, List.find?_map, Option.map_eq_some_iff] at first
  obtain ⟨source, hsource, rfl⟩ := first
  exact ⟨source, hsource, (wellFormed_graphOf _ _).node?_eq_some.mpr ⟨hn, id⟩⟩

private theorem source_of_finding {first : SecretSource}
    (described : (m.flowGraph options cluster resolve).node? s.id = some first.declaration)
    {limits : MiningLimits} {f : Finding}
    (hf : f ∈ ((m.flowGraph options cluster resolve).mine limits).findings)
    (starts : f.path.head? = some s.id) :
    f.secret = first.secret ∧ f.exposedAs = first.exposedAs ∧
      f.sourceLocation = some first.origin := by
  have wf := wellFormed_graphOf m.unitId (m.flowSteps options cluster resolve)
  obtain ⟨path, start, last, told, head, _, rfl⟩ := Graph.tells_of_mem_mine wf hf
  have id : start.id = s.id := by simpa [Finding.ofPath_path, head] using starts
  obtain ⟨hfirst, first_id⟩ := wf.node?_eq_some.mp described
  obtain rfl : start = first.declaration :=
    wf.eq_of_id (told.inGraph start (List.mem_of_head? head)) hfirst (id.trans first_id.symm)
  exact ⟨rfl, rfl, rfl⟩

end Sources

/-- Every source of a manifest is declared below the root. If no container has a colon in its name,
the declaration describes the first source with its id, and findings that start there tell of that
one; so every source is described by its declaration exactly if sources with one id say the same. -/
theorem declared_as_first (m : Manifest) (options : FlowOptions) (cluster : Option Cluster)
    (resolve : Resolver) :
    let g := m.flowGraph options cluster resolve
    (∀ s ∈ m.secretSources, ⟨GraphStep.rootId, s.id, .declares⟩ ∈ g.edges) ∧
    (m.PlainNames →
      (∀ s ∈ m.secretSources, ∃ first, m.secretSources.find? (·.id = s.id) = some first ∧
        g.node? s.id = some first.declaration ∧
        ∀ limits, ∀ f ∈ (g.mine limits).findings, f.path.head? = some s.id →
          f.secret = first.secret ∧ f.exposedAs = first.exposedAs ∧
            f.sourceLocation = some first.origin) ∧
      ((∀ s ∈ m.secretSources, g.Describes s) ↔
        ∀ s ∈ m.secretSources, ∀ t ∈ m.secretSources, s.id = t.id → s.payload = t.payload)) := by
  intro g
  refine ⟨fun s hs => declares_source hs, fun plain => ⟨?_, ?_, ?_⟩⟩
  · intro s hs
    obtain ⟨first, found, described⟩ := exists_first plain hs
    exact ⟨first, found, described, fun limits f hf starts => source_of_finding described hf starts⟩
  · intro described s hs t ht same
    obtain ⟨a, ha, _, describes⟩ := described s hs
    obtain ⟨b, hb, _, describes'⟩ := described t ht
    rw [← same, ha, Option.some_inj] at hb
    rw [← describes, ← describes', hb]
  · intro agree s hs
    obtain ⟨first, found, described⟩ := exists_first plain hs
    have id : first.id = s.id := by simpa using List.find?_some found
    exact ⟨_, described, rfl, agree first (List.mem_of_find?_eq_some found) s hs id⟩

/-- A variable is set twice, from two secrets. The second one counts, but it is declared nowhere,
and all findings blame the first one. -/
theorem second_source_undeclared :
    let m := shellPod [⟨"TOKEN", .secretKey "old" "token", "env[0]"⟩,
      ⟨"TOKEN", .secretKey "api" "token", "env[1]"⟩] "echo $TOKEN"
    let g := m.flowGraph .echoing none (.ofTable [])
    (∃ s ∈ m.secretSources, s.payload = .secret "api" (some "token") "TOKEN" ∧
      (∀ n ∈ g.nodes, n.payload ≠ s.payload) ∧ ¬ g.Describes s) ∧
    ∀ limits, ∀ f ∈ (g.mine limits).findings, f.secret = "old" := by
  intro m g
  obtain ⟨s, hs, payload⟩ : ∃ s ∈ m.secretSources,
      s.payload = .secret "api" (some "token") "TOKEN" := by decide +kernel
  have absent : ∀ n ∈ g.nodes, n.payload ≠ .secret "api" (some "token") "TOKEN" := by
    decide +kernel
  have declared : ∀ n ∈ g.nodes, n.kind = .secretDeclaration → n.payload.exposure.1 = "old" := by
    decide +kernel
  rw [← payload] at absent
  refine ⟨⟨s, hs, payload, absent, ?_⟩, ?_⟩
  · rintro ⟨n, found, _, describes⟩
    exact absent n (List.mem_of_find?_eq_some found) describes
  · intro limits f hf
    obtain ⟨path, start, last, told, head, _, rfl⟩ :=
      Graph.tells_of_mem_mine (wellFormed_graphOf _ _) hf
    obtain ⟨first, first_head, kind⟩ := told.starts
    rw [head, Option.some_inj] at first_head
    subst first_head
    exact declared start (told.inGraph start (List.mem_of_head? head)) kind

end Manifest

end SecretFlow

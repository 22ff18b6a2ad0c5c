import SecretFlow.Flow.Build
import SecretFlow.Proofs.GraphStore

set_option autoImplicit false
set_option relaxedAutoImplicit false

/-!
The file of a manifest. It stands in the origins of what a manifest says and nowhere else in its
flow graph, so a manifest in another file has the same nodes and edges but for their origins.
-/

namespace SecretFlow

/-- The origin in another file; an origin in a script stays. -/
def Origin.movedTo (file : String) : Origin → Origin
  | .manifest _ field => .manifest file field
  | .script name line => .script name line

def Node.movedTo (file : String) (n : Node) : Node :=
  { n with origin := n.origin.map (·.movedTo file) }

def Diagnostic.movedTo (file : String) (d : Diagnostic) : Diagnostic :=
  { d with origin := d.origin.map (·.movedTo file) }

def GraphStep.movedTo (file : String) : GraphStep → GraphStep
  | .node n => .node (n.movedTo file)
  | .edge e => .edge e
  | .note d => .note (d.movedTo file)

def Graph.movedTo (file unit : String) (g : Graph) : Graph where
  unit := unit
  nodes := g.nodes.map (·.movedTo file)
  edges := g.edges
  diagnostics := g.diagnostics.map (·.movedTo file)

def Manifest.movedTo (file : String) (m : Manifest) : Manifest :=
  { m with file }

def Place.movedTo (file : String) (p : Place) : Place :=
  { p with file }

def Walked.movedTo (file : String) (w : Walked) : Walked :=
  ⟨w.scope, w.steps.map (·.movedTo file)⟩

def Found.movedTo (file : String) (found : Found) : Found :=
  ⟨found.bindings, found.scope, found.steps.map (·.movedTo file)⟩

section

variable (file : String)

/-! ### Steps -/

@[simp]
theorem GraphStep.movedTo_node (id : NodeId) (kind : NodeKind) (origin : Origin)
    (payload : Payload) : (GraphStep.node ⟨id, kind, some origin, payload⟩).movedTo file =
      .node ⟨id, kind, some (origin.movedTo file), payload⟩ := rfl

@[simp]
theorem GraphStep.movedTo_note (kind : DiagnosticKind) (message : String) (origin : Origin) :
    (GraphStep.note ⟨kind, message, some origin⟩).movedTo file =
      .note ⟨kind, message, some (origin.movedTo file)⟩ := rfl

@[simp]
theorem GraphStep.edgeBetween_movedTo (source target : NodeId) (relation : Relation) :
    (edgeBetween source target relation).map (·.movedTo file) = edgeBetween source target relation := by
  unfold edgeBetween
  split <;> rfl

@[simp]
theorem GraphStep.declaration_movedTo (id : NodeId) (origin : Origin) (payload : Payload) :
    (declaration id origin payload).map (·.movedTo file) =
      declaration id (origin.movedTo file) payload := by
  rw [declaration, List.map_cons, edgeBetween_movedTo]
  rfl

@[simp]
theorem linkAll_movedTo (bindings : List Binding) (target : NodeId) :
    (linkAll bindings target).map (·.movedTo file) = linkAll bindings target := by
  rw [linkAll, List.map_flatMap]
  simp [Binding.link]

private theorem Walked.foldl_movedTo {α : Type} {f g : Scope → α → Walked}
    (each : ∀ scope part, g scope part = (f scope part).movedTo file) (parts : List α) (w : Walked) :
    parts.foldl (Walked.andThen g) (w.movedTo file) =
      (parts.foldl (Walked.andThen f) w).movedTo file := by
  induction parts generalizing w with
  | nil => rfl
  | cons part parts ih =>
    have next : Walked.andThen g (w.movedTo file) part = (Walked.andThen f w part).movedTo file := by
      unfold Walked.andThen
      rw [each]
      simp [Walked.movedTo]
    rw [List.foldl_cons, List.foldl_cons, next, ih]

namespace Place

variable (p : Place)

@[simp]
theorem origin_movedTo (field : String) :
    (p.movedTo file).origin field = (p.origin field).movedTo file := rfl

@[simp]
theorem note_movedTo (kind : DiagnosticKind) (message : String) :
    (p.movedTo file).note kind message = (p.note kind message).movedTo file := rfl

@[simp]
theorem id_movedTo (label : String) : (p.movedTo file).id label = p.id label := rfl

@[simp]
theorem field_movedTo : (p.movedTo file).field = p.field := rfl

/-! ### Look-ups -/

private theorem lookup_movedTo (scope : Scope) (name : String) :
    (p.movedTo file).lookup scope name = (p.lookup scope name).movedTo file := by
  unfold lookup
  split
  · rfl
  · split
    · rfl
    · dsimp only
      split
      · rfl
      · simp [Found.movedTo, List.map_flatMap]

private theorem lookupAll_movedTo (scope : Scope) (names : List String) :
    (p.movedTo file).lookupAll scope names = (p.lookupAll scope names).movedTo file := by
  have all (found : Found) : names.foldl (p.movedTo file).lookupNext (found.movedTo file) =
      (names.foldl p.lookupNext found).movedTo file := by
    induction names generalizing found with
    | nil => rfl
    | cons name names ih =>
      have next : (p.movedTo file).lookupNext (found.movedTo file) name =
          (p.lookupNext found name).movedTo file := by
        unfold lookupNext
        rw [lookup_movedTo]
        simp [Found.movedTo]
      rw [List.foldl_cons, List.foldl_cons, next, ih]
  exact all { scope }

private theorem references_movedTo (scope : Scope) (names : List String) (text : String) :
    (p.movedTo file).references scope names text = (p.references scope names text).movedTo file := by
  unfold references
  rw [lookupAll_movedTo]
  rfl

/-! ### The environment and the volumes -/

private theorem envImport_movedTo (cluster : Option Cluster) (scope : Scope) (e : EnvImport) :
    (p.movedTo file).envImport cluster scope e = (p.envImport cluster scope e).movedTo file := by
  unfold envImport
  split
  · dsimp only
    split <;> simp [Walked.movedTo]
  · rfl

private theorem envVariable_movedTo (options : FlowOptions) (scope : Scope) (e : EnvVariable) :
    (p.movedTo file).envVariable options scope e = (p.envVariable options scope e).movedTo file := by
  have notes (value : String) : (p.movedTo file).userNameNotes options.identifiers e value =
      (p.userNameNotes options.identifiers e value).map (·.movedTo file) := by
    unfold userNameNotes
    dsimp only
    split <;> simp
  unfold envVariable
  split
  · simp [Walked.movedTo]
  · dsimp only
    rw [notes, lookupAll_movedTo]
    simp only [Found.movedTo, List.isEmpty_iff]
    split
    · simp [Walked.movedTo]
    · simp [Walked.movedTo]
  · rfl

private theorem volumeMount_movedTo (volumes : List Volume) (scope : Scope) (m : VolumeMount) :
    (p.movedTo file).volumeMount volumes scope m =
      (p.volumeMount volumes scope m).movedTo file := by
  unfold volumeMount
  split
  · simp [Walked.movedTo]
  · rfl

/-! ### Arguments -/

private theorem arguments_movedTo (scope : Scope) (c : Container) :
    (p.movedTo file).arguments scope c =
      ((p.arguments scope c).1.movedTo file, (p.arguments scope c).2) := by
  have all (args : List (String × Nat)) (w : Walked × List NodeId) :
      args.foldl ((p.movedTo file).argument c) (w.1.movedTo file, w.2) =
        ((args.foldl (p.argument c) w).1.movedTo file, (args.foldl (p.argument c) w).2) := by
    induction args generalizing w with
    | nil => rfl
    | cons arg args ih =>
      have next : (p.movedTo file).argument c (w.1.movedTo file, w.2) arg =
          ((p.argument c w arg).1.movedTo file, (p.argument c w arg).2) := by
        unfold argument
        dsimp only
        rw [references_movedTo]
        simp only [Found.movedTo, Walked.movedTo, List.isEmpty_iff]
        split <;> simp
      rw [List.foldl_cons, List.foldl_cons, next, ih]
  exact all _ ({ scope }, [])

private theorem argumentSink_movedTo (rules : List SinkRule) (line : String)
    (mentioning : List NodeId) : (p.movedTo file).argumentSink rules line mentioning =
      (p.argumentSink rules line mentioning).map (·.movedTo file) := by
  unfold argumentSink
  split
  · rfl
  · simp [List.map_flatMap]

/-! ### Scripts -/

private theorem deadEnd_movedTo (scope : Scope) (key : String) (cause : UnresolvedCause) :
    (p.movedTo file).deadEnd scope key cause =
      (p.deadEnd scope key cause).map (·.movedTo file) := by
  simp [deadEnd]

private theorem statementAlone_movedTo (rules : List SinkRule) (script : ScriptRef)
    (expanded : Bool) (scope : Scope) (s : Shell.Statement) :
    (p.movedTo file).statementAlone rules script expanded scope s =
      (p.statementAlone rules script expanded scope s).movedTo file := by
  have mentioned : (p.movedTo file).mentioned expanded scope s =
      (p.mentioned expanded scope s).movedTo file := references_movedTo _ _ _ _ _
  have consumer (id : NodeId) (bindings : List Binding) :
      (consumerSteps rules id (.script script.key s.line) s bindings).map (·.movedTo file) =
        consumerSteps rules id (.script script.key s.line) s bindings := by
    unfold consumerSteps
    dsimp only
    split <;> split <;> simp [Origin.movedTo]
  unfold statementAlone
  rw [mentioned]
  simp only [Walked.movedTo, Found.movedTo, List.map_append, consumer]
  rfl

private theorem statement_movedTo (rules : List SinkRule) {walk moved : ScriptWalk}
    (each : ∀ ref scope, moved ref scope = (walk ref scope).movedTo file) (script : ScriptRef)
    (expanded : Bool) (scope : Scope) (s : Shell.Statement) :
    (p.movedTo file).statement rules moved script expanded scope s =
      (p.statement rules walk script expanded scope s).movedTo file := by
  have ref (target : String) (current : Option ScriptRef) :
      (p.movedTo file).scriptRef target current = p.scriptRef target current := rfl
  unfold statement
  rw [statementAlone_movedTo]
  split
  · rfl
  · dsimp only
    split <;> simp [each, ref, Walked.movedTo]

private theorem script_movedTo (options : FlowOptions) (resolve : Resolver) (depth : Nat)
    (around : List String) (expanded : Bool) (ref : ScriptRef) (scope : Scope) :
    (p.movedTo file).script options resolve depth around expanded ref scope =
      (p.script options resolve depth around expanded ref scope).movedTo file := by
  induction depth generalizing around expanded ref scope with
  | zero =>
    unfold script
    dsimp only
    rw [deadEnd_movedTo]
    simp [Walked.movedTo]
  | succ depth ih =>
    unfold script
    dsimp only
    split
    · simp [Walked.movedTo]
    · split
      · rw [deadEnd_movedTo]
        simp [Walked.movedTo]
      · have each := statement_movedTo file p options.sinks
          (ih (ref.key :: around) false) ref expanded
        exact Walked.foldl_movedTo file each _ { scope }

/-! ### Containers -/

private theorem argv_movedTo (options : FlowOptions) (resolve : Resolver) (scope : Scope)
    (c : Container) : (p.movedTo file).argv options resolve scope c =
      (p.argv options resolve scope c).map (·.movedTo file) := by
  have launches : (p.movedTo file).launches c = p.launches c := rfl
  have launch (scope : Scope) : (p.movedTo file).launch options resolve scope =
      fun l => (p.launch options resolve scope l).map (·.movedTo file) := by
    funext l
    unfold launch
    rw [script_movedTo]
    rfl
  unfold argv
  split
  · rfl
  · dsimp only
    rw [arguments_movedTo, launches, argumentSink_movedTo]
    simp only [Walked.movedTo, List.map_append, List.map_flatMap, launch]
    congr 2
    split <;> rfl

private theorem container_movedTo (other : String) (options : FlowOptions)
    (cluster : Option Cluster) (resolve : Resolver) (volumes : List Volume) (c : Container) :
    container file options cluster resolve volumes c =
      (container other options cluster resolve volumes c).map (·.movedTo file) := by
  have place : ofContainer file volumes c = (ofContainer other volumes c).movedTo file := rfl
  have start : ({ scope := {} } : Walked) = Walked.movedTo file { scope := {} } := rfl
  unfold container
  dsimp only
  rw [place, start, Walked.foldl_movedTo file (envImport_movedTo file _ cluster),
    Walked.foldl_movedTo file (envVariable_movedTo file _ options),
    Walked.foldl_movedTo file (volumeMount_movedTo file _ volumes)]
  simp only [Walked.movedTo, List.map_append, argv_movedTo]
  rfl

end Place

/-! ### Graphs -/

private theorem Graph.contains_movedTo (unit : String) (g : Graph) (id : NodeId) :
    (g.movedTo file unit).contains id = g.contains id := by
  unfold contains movedTo
  rw [List.any_map]
  rfl

/-- A moved step does to a moved graph what the step does to the graph: no step looks at an origin.
-/
private theorem Graph.step_movedTo (unit : String) (g : Graph) (s : GraphStep) :
    (g.movedTo file unit).step (s.movedTo file) = (g.step s).movedTo file unit := by
  cases s with
  | node n =>
    show (g.movedTo file unit).addNode (n.movedTo file) = (g.addNode n).movedTo file unit
    unfold addNode
    rw [contains_movedTo]
    show (if g.contains n.id = true then _ else _) = _
    split
    · rfl
    · simp [movedTo]
  | edge e =>
    have edges : (g.movedTo file unit).edges = g.edges := rfl
    show (g.movedTo file unit).step (.edge e) = (g.step (.edge e)).movedTo file unit
    rw [step_edge, step_edge, contains_movedTo, contains_movedTo, edges]
    split <;> rfl
  | note d => simp [GraphStep.movedTo, step, addDiagnostic, movedTo]

private theorem Graph.run_movedTo (unit : String) (g : Graph) (steps : List GraphStep) :
    (g.movedTo file unit).run (steps.map (·.movedTo file)) = (g.run steps).movedTo file unit := by
  unfold run
  induction steps generalizing g with
  | nil => rfl
  | cons s steps ih =>
    rw [List.map_cons, List.foldl_cons, List.foldl_cons, step_movedTo, ih]

/-- The flow graph of a manifest in another file is its flow graph with the file of the origins
changed. -/
theorem Manifest.flowGraph_movedTo (m : Manifest) (options : FlowOptions) (cluster : Option Cluster)
    (resolve : Resolver) : (m.movedTo file).flowGraph options cluster resolve =
      (m.flowGraph options cluster resolve).movedTo file (m.movedTo file).unitId := by
  have steps : (m.movedTo file).flowSteps options cluster resolve =
      (m.flowSteps options cluster resolve).map (·.movedTo file) := by
    have opening : (m.movedTo file).openingSteps = m.openingSteps.map (·.movedTo file) := by
      simp [openingSteps, movedTo, Origin.movedTo]
    have pod : (m.movedTo file).pod? = m.pod? := rfl
    unfold flowSteps
    dsimp only
    rw [opening, pod, List.map_append]
    congr 1
    split
    · rfl
    · rw [List.map_flatMap]
      congr 1
      funext c
      exact Place.container_movedTo file m.file options cluster resolve _ c
  rw [flowGraph, steps]
  exact Graph.run_movedTo file _ { unit := m.unitId } _

end

end SecretFlow

import SecretFlow.Proofs.GroundedSteps

set_option autoImplicit false
set_option relaxedAutoImplicit false

/-!
Every part of building a flow graph takes grounded steps and leaves a scope whose bindings are all
held: looking up names, walking scripts to any depth, and going through a container.
-/

namespace SecretFlow.Place

variable {named : Node → Prop} {p : Place} {c : Container} {volumes : List Volume}

/-- The nodes that a container makes, under any of its labels, may be named so. -/
def MayName (p : Place) (c : Container) (volumes : List Volume) (named : Node → Prop) : Prop :=
  ∀ kind label origin payload, c.Labels volumes kind label →
    named ⟨p.id label, kind, origin, payload⟩

structure ReadyWith (named : Node → Prop) (steps : List GraphStep) (found : Found) : Prop where
  ready : Ready named (steps ++ found.steps) found.scope
  found : ∀ b ∈ found.bindings, b.HeldBy (steps ++ found.steps)

private theorem linkAll_declarations (sources : List (String × NodeId)) (id : NodeId) :
    linkAll (sources.map fun u => Binding.toDeclaration u.2) id =
      sources.flatMap fun u => GraphStep.edgeBetween u.2 id .injectsInto := by
  simp [linkAll, List.flatMap_map, Binding.link, Binding.toDeclaration]

private theorem ready_lookup (names : p.MayName c volumes named) {steps : List GraphStep}
    {scope : Scope} (ready : Ready named steps scope) (name : String) :
    ReadyWith named steps (p.lookup scope name) := by
  have same : Ready named (steps ++ []) scope := by rwa [List.append_nil]
  unfold lookup
  split
  · rename_i b found
    refine ⟨same, ?_⟩
    intro a ha
    rw [List.mem_singleton] at ha
    rw [ha]
    exact same.held b (Scope.mem_bindings_of_get? found)
  · split
    · exact ⟨same, by simp⟩
    · dsimp only
      split
      · exact ⟨same, by simp⟩
      · rename_i some_source
        have sources_held : ∀ b ∈ (scope.unknown.filter fun u =>
            u.1.toList.isPrefixOf name.toList).map fun u => Binding.toDeclaration u.2,
            b.HeldBy steps := by
          intro b hb
          obtain ⟨u, hu, rfl⟩ := List.mem_map.mp hb
          refine ready.held _ ?_
          simp only [Scope.bindings, List.mem_append, List.mem_map]
          exact .inl (.inr ⟨u, (List.mem_filter.mp hu).1, rfl⟩)
        let n : Node := ⟨p.id s!"envref:{name}", .envVarRef, some (p.origin p.field), .name name⟩
        have grounded := ready.grounded.carry (n := n) (names _ _ _ _ (.reference name)) rfl
          (by simpa using some_source) sources_held
        rw [linkAll_declarations] at grounded
        have held (more : List GraphStep) := Binding.heldBy_new (n := n) steps more rfl true
        refine ⟨(ready.extend grounded).bind name (held _), ?_⟩
        intro a ha
        rw [List.mem_singleton] at ha
        rw [ha]
        exact held _

private theorem ready_lookupNext (names : p.MayName c volumes named) {steps : List GraphStep}
    {found : Found} (ready : ReadyWith named steps found) (name : String) :
    ReadyWith named steps (p.lookupNext found name) := by
  have next := ready_lookup names ready.ready name
  have all := next.found
  have still := next.ready
  rw [List.append_assoc] at all still
  refine ⟨still, ?_⟩
  intro b hb
  rcases List.mem_append.mp hb with old | new
  · have held := (ready.found b old).append (p.lookup found.scope name).steps
    rwa [List.append_assoc] at held
  · exact all b new

private theorem ready_lookupAll (names : p.MayName c volumes named) {steps : List GraphStep}
    {scope : Scope} (ready : Ready named steps scope) (queries : List String) :
    ReadyWith named steps (p.lookupAll scope queries) :=
  List.foldlRecOn _ _ ⟨by rwa [List.append_nil], by simp⟩
    fun _ here name _ => ready_lookupNext names here name

private theorem ready_references (names : p.MayName c volumes named) {steps : List GraphStep}
    {scope : Scope} (ready : Ready named steps scope) (queries : List String) (text : String) :
    ReadyWith named steps (p.references scope queries text) := by
  have all := ready_lookupAll names ready queries
  refine ⟨all.ready, ?_⟩
  intro b hb
  rcases List.mem_append.mp hb with found | mounted
  · exact all.found b found
  · obtain ⟨m, hm, rfl⟩ := List.mem_map.mp mounted
    refine all.ready.held _ ?_
    simp only [Scope.bindings, List.mem_append, List.mem_map]
    exact .inr ⟨m, (List.mem_filter.mp hm).1, rfl⟩

private theorem ready_consumer {steps : List GraphStep} {scope : Scope}
    (ready : Ready named steps scope)
    (id : NodeId) {origin : Origin} {s : Shell.Statement} {mentioned : List Binding}
    (statement : named ⟨id, .scriptStatement, some origin, .text s.text⟩)
    (sink : ∀ kind pattern,
      named ⟨s!"{id}:sink", .externalSink kind pattern, some origin, .text s.text⟩)
    (held : ∀ b ∈ mentioned, b.HeldBy steps) (rules : List SinkRule) :
    Ready named (steps ++ consumerSteps rules id origin s mentioned) scope ∧
      (mentioned ≠ [] → ∀ exported, Binding.HeldBy ⟨id, false, exported⟩
        (steps ++ consumerSteps rules id origin s mentioned)) := by
  by_cases nothing : mentioned = []
  · subst nothing
    refine ⟨ready.extend ?_, fun some => absurd rfl some⟩
    unfold consumerSteps
    cases sinkOf? rules s with
    | none => simpa using ready.grounded
    | some pattern =>
      simpa using ready.grounded.sink [] (sink pattern.kind pattern.name) rfl (by simp)
  · have something : mentioned.isEmpty = false := by simpa using nothing
    let n : Node := ⟨id, .scriptStatement, some origin, .text s.text⟩
    have own : Grounded named (steps ++ .node n :: linkAll mentioned id) :=
      ready.grounded.carry statement rfl nothing held
    have used : UsedBy id (steps ++ .node n :: linkAll mentioned id) :=
      usedBy_new (n := n) steps _ rfl
    unfold consumerSteps
    cases sinkOf? rules s with
    | none =>
      simp only [something, Bool.false_eq_true, if_false, List.append_nil]
      exact ⟨ready.extend own, fun _ exported => Binding.heldBy_new (n := n) steps _ rfl exported⟩
    | some pattern =>
      simp only [something, Bool.false_eq_true, if_false, List.cons_append]
      have all := own.sink [id] (sink pattern.kind pattern.name) rfl (by simpa using used)
      rw [List.append_assoc] at all
      simp only [List.cons_append, List.flatMap_singleton] at all
      exact ⟨ready.extend all, fun _ exported => Binding.heldBy_new (n := n) steps _ rfl exported⟩

theorem sink_id (p : Place) (script : ScriptRef) (s : Shell.Statement) :
    s!"{p.statementId script s}:sink" = p.id s!"{script.key}:{s.line}.{s.index}:sink" := by
  apply String.toList_inj.mp
  simp [statementId, toString]

private theorem ready_assign {steps : List GraphStep} {scope : Scope}
    (ready : Ready named steps scope) {id : NodeId} {tainted : Bool} (a : Shell.Assignment)
    (held : tainted = true → ∀ exported, Binding.HeldBy ⟨id, false, exported⟩ steps) :
    Ready named steps (assign scope id tainted a) := by
  unfold assign
  split
  · rename_i mentions
    exact ready.bind a.name (held mentions _)
  · exact ready.clear a.name

/-- Steps that a script takes keep every binding held, whatever is in scope. -/
def WalkReady (named : Node → Prop) (walk : ScriptWalk) : Prop :=
  ∀ ref steps scope, Ready named steps scope →
    Ready named (steps ++ (walk ref scope).steps) (walk ref scope).scope

theorem ready_statementAlone (names : p.MayName c volumes named) (rules : List SinkRule)
    (script : ScriptRef) (expanded : Bool) {steps : List GraphStep} {scope : Scope}
    (ready : Ready named steps scope) (s : Shell.Statement) :
    Ready named (steps ++ (p.statementAlone rules script expanded scope s).steps)
      (p.statementAlone rules script expanded scope s).scope := by
  have looked : ReadyWith named steps (p.mentioned expanded scope s) :=
    ready_references names ready _ _
  obtain ⟨consumed, bound⟩ := ready_consumer looked.ready (p.statementId script s)
    (names _ _ (some (.script script.key s.line)) (.text s.text)
      (.statement script s.line s.index))
    (fun kind pattern => by
      rw [sink_id]
      exact names _ _ _ _ (.statementSink script s.line s.index kind pattern))
    looked.found rules
  rw [List.append_assoc] at consumed bound
  unfold statementAlone
  cases s.assignment with
  | none => exact consumed
  | some a => exact ready_assign consumed a fun mentions => bound (by simpa using mentions)

private theorem ready_statement (names : p.MayName c volumes named) {walk : ScriptWalk}
    (hwalk : WalkReady named walk) (rules : List SinkRule) (script : ScriptRef) (expanded : Bool)
    {steps : List GraphStep} {scope : Scope} (ready : Ready named steps scope)
    (s : Shell.Statement) :
    Ready named (steps ++ (p.statement rules walk script expanded scope s).steps)
      (p.statement rules walk script expanded scope s).scope := by
  have alone := ready_statementAlone names rules script expanded ready s
  unfold statement
  cases s.invocation with
  | none => exact alone
  | some invocation =>
    dsimp only
    cases invocation.mode with
    | source =>
      have walked := hwalk (p.scriptRef invocation.target (some script)) _ _ alone
      rwa [List.append_assoc] at walked
    | execute =>
      have walked := hwalk (p.scriptRef invocation.target (some script)) _ _ alone.exported
      have after := alone.extend walked.grounded
      rwa [List.append_assoc] at after

private theorem ready_statements (names : p.MayName c volumes named) {walk : ScriptWalk}
    (hwalk : WalkReady named walk) (rules : List SinkRule) (script : ScriptRef) (expanded : Bool)
    {steps : List GraphStep} {scope : Scope} (ready : Ready named steps scope)
    (ss : List Shell.Statement) :
    Ready named (steps ++ (p.statements rules walk script expanded scope ss).steps)
      (p.statements rules walk script expanded scope ss).scope :=
  Ready.foldl (fun s _ _ _ here => ready_statement names hwalk rules script expanded here s)
    (by rwa [List.append_nil])

theorem ready_deadEnd (names : p.MayName c volumes named) {steps : List GraphStep} {scope : Scope}
    (ready : Ready named steps scope) (key : String) (cause : UnresolvedCause)
    {kind : DiagnosticKind} (degrades : kind.degrades = true) (message : String) :
    Ready named (steps ++ p.note kind message :: p.deadEnd scope key cause) scope :=
  ready.extend (ready.grounded.deadEnd (names _ _ _ _ (.unresolved key cause)) rfl degrades
    fun b hb => ready.held b (Scope.mem_bindings_of_tainted hb))

private theorem ready_script (names : p.MayName c volumes named) (options : FlowOptions)
    (resolve : Resolver) (depth : Nat) (around : List String) (expanded : Bool) :
    WalkReady named (p.script options resolve depth around expanded) := by
  induction depth generalizing around expanded with
  | zero =>
    intro ref steps scope ready
    exact ready_deadEnd names ready ref.key .depthExceeded rfl _
  | succ depth ih =>
    intro ref steps scope ready
    unfold script
    dsimp only
    split
    · exact ready.note _
    · split
      · exact ready_deadEnd names ready ref.key _ rfl _
      · exact ready_statements names (ih (ref.key :: around) false) options.sinks ref expanded
          ready _

private theorem ready_declare (names : p.MayName c volumes named) {steps : List GraphStep}
    {scope : Scope} (ready : Ready named steps scope) {label : String}
    (labelled : c.Labels volumes .secretDeclaration label) (origin : Origin) (payload : Payload) :
    Ready named (steps ++ GraphStep.declaration (p.id label) origin payload) scope ∧
      (Binding.toDeclaration (p.id label)).HeldBy
        (steps ++ GraphStep.declaration (p.id label) origin payload) :=
  ⟨ready.extend (ready.grounded.declare (names _ _ _ _ labelled)),
    Binding.heldBy_declaration steps _ origin payload⟩

theorem ready_envImport (names : p.MayName c volumes named) (cluster : Option Cluster)
    {steps : List GraphStep} {scope : Scope} (ready : Ready named steps scope) {e : EnvImport}
    (he : e ∈ c.envFrom) :
    Ready named (steps ++ (p.envImport cluster scope e).steps)
      (p.envImport cluster scope e).scope := by
  unfold envImport
  split
  · rename_i secret source
    obtain ⟨declared, held⟩ := ready_declare names ready (.imported he source) (p.origin e.field)
      (.secret secret none (e.start ++ "*"))
    dsimp only
    split
    · exact List.foldlRecOn _ _ declared fun sc here name _ => here.bind name held
    · rw [← List.append_assoc]
      exact (declared.addUnknown e.start held).note _
  · rw [List.append_nil]
    exact List.foldlRecOn _ _ ready fun sc here key _ => here.clear _

private theorem ready_userNameNotes (policy : IdentifierPolicy) {steps : List GraphStep}
    {scope : Scope} (ready : Ready named steps scope) (e : EnvVariable) (value : String) :
    Ready named (steps ++ p.userNameNotes policy e value) scope := by
  unfold userNameNotes
  dsimp only
  split
  · exact ready.note _
  · rwa [List.append_nil]

theorem ready_envVariable (names : p.MayName c volumes named) (options : FlowOptions)
    {steps : List GraphStep} {scope : Scope} (ready : Ready named steps scope) {e : EnvVariable}
    (he : e ∈ c.env) :
    Ready named (steps ++ (p.envVariable options scope e).steps)
      (p.envVariable options scope e).scope := by
  unfold envVariable
  dsimp only
  split
  · rename_i secret key source
    obtain ⟨declared, held⟩ := ready_declare names ready (.secretVariable he source)
      (p.origin e.field) (.secret secret (some key) e.name)
    exact declared.bind e.name held
  · rename_i value source
    have noted := ready_userNameNotes (p := p) options.identifiers ready e value
    have looked := ready_lookupAll names noted (Shell.argumentVariables value)
    split
    · rw [← List.append_assoc]
      exact looked.ready.clear e.name
    · rename_i mentions
      rw [← List.append_assoc, ← List.append_assoc]
      have grounded := looked.ready.grounded.carry
        (names .envVarRef _ (some (p.origin e.field)) (.name e.name) (.reference e.name)) rfl
        (by simpa using mentions) looked.found
      exact (looked.ready.extend grounded).bind e.name (Binding.heldBy_new _ _ rfl true)
  · rw [List.append_nil]
    exact ready.clear e.name

theorem ready_volumeMount (names : p.MayName c volumes named) {steps : List GraphStep}
    {scope : Scope} (ready : Ready named steps scope) {m : VolumeMount} (hm : m ∈ c.mounts) :
    Ready named (steps ++ (p.volumeMount volumes scope m).steps)
      (p.volumeMount volumes scope m).scope := by
  unfold volumeMount
  split
  · rename_i secret items source
    obtain ⟨declared, held⟩ := ready_declare names ready (.secretVolume hm source)
      (p.origin m.field) (.secret secret m.subPath m.mountPath)
    have grounded := declared.grounded.carry
      (names .volumeMountRef _ (some (p.origin m.field)) (.path m.mountPath) (.mounted m.name)) rfl
      (List.cons_ne_nil _ []) (List.forall_mem_singleton.mpr held)
    have mounted := declared.extend grounded
    simp only [linkAll, List.flatMap_singleton] at mounted
    dsimp only
    rw [← List.append_assoc]
    split
    · exact mounted
    · exact mounted.addMount _ (Binding.heldBy_new _ _ rfl true)
  · rwa [List.append_nil]

/-- After each argument, the arguments that mention anything are nodes from which secrets can go to
a sink. -/
structure ReadyArguments (named : Node → Prop) (steps : List GraphStep)
    (w : Walked × List NodeId) : Prop where
  ready : Ready named (steps ++ w.1.steps) w.1.scope
  used : ∀ id ∈ w.2, UsedBy id (steps ++ w.1.steps)

theorem ready_argument (names : p.MayName c volumes named) {steps : List GraphStep}
    {w : Walked × List NodeId} (here : ReadyArguments named steps w) (arg : String × Nat) :
    ReadyArguments named steps (p.argument c w arg) := by
  obtain ⟨text, i⟩ := arg
  unfold argument
  dsimp only
  have looked := ready_references names here.ready
    (addNames (Shell.argumentVariables text) (Shell.variableNames text true)) text
  split
  · refine ⟨?_, ?_⟩
    · rw [← List.append_assoc]
      exact looked.ready
    · intro id hid
      rw [← List.append_assoc]
      exact (here.used id hid).append _
  · rename_i mentions
    have grounded := looked.ready.grounded.carry
      (names .commandArg _ (some (p.origin (c.argvField i))) (.text text) (.argument i)) rfl
      (by simpa using mentions) looked.found
    refine ⟨?_, ?_⟩
    · rw [← List.append_assoc, ← List.append_assoc]
      exact looked.ready.extend grounded
    · intro id hid
      rw [← List.append_assoc, ← List.append_assoc]
      rcases List.mem_append.mp hid with old | new
      · exact ((here.used id old).append _).append _
      · rw [List.mem_singleton] at new
        rw [new]
        exact usedBy_new _ _ rfl

private theorem ready_arguments (names : p.MayName c volumes named) {steps : List GraphStep}
    {scope : Scope} (ready : Ready named steps scope) :
    ReadyArguments named steps (p.arguments scope c) :=
  List.foldlRecOn _ _ ⟨by rwa [List.append_nil], by simp⟩
    fun _ here arg _ => ready_argument names here arg

theorem ready_argumentSink (names : p.MayName c volumes named) {steps : List GraphStep}
    {w : Walked × List NodeId} (here : ReadyArguments named steps w) (rules : List SinkRule)
    (line : String) :
    Ready named (steps ++ w.1.steps ++ p.argumentSink rules line w.2) w.1.scope := by
  unfold argumentSink
  split
  · rw [List.append_nil]
    exact here.ready
  · exact here.ready.extend (here.ready.grounded.sink w.2
      (names _ _ _ _ (.commandSink _ _)) rfl here.used)

private theorem ready_launch (names : p.MayName c volumes named) (options : FlowOptions)
    (resolve : Resolver) {steps : List GraphStep} {scope : Scope}
    (ready : Ready named steps scope) (l : Launch) :
    Ready named (steps ++ p.launch options resolve scope l) scope := by
  unfold launch
  cases l.inline with
  | true =>
    exact ready.extend (ready_script names options resolve _ [] true l.ref _ _ ready).grounded
  | false =>
    exact ready.extend
      (ready_script names options resolve _ [] false l.ref _ _ ready.exported).grounded

private theorem ready_launches (names : p.MayName c volumes named) (options : FlowOptions)
    (resolve : Resolver) {steps : List GraphStep} {scope : Scope}
    (ready : Ready named steps scope) (launches : List Launch) :
    Ready named (steps ++ launches.flatMap (p.launch options resolve scope)) scope := by
  induction launches generalizing steps with
  | nil => simpa using ready
  | cons l rest ih =>
    rw [List.flatMap_cons, ← List.append_assoc]
    exact ih (ready_launch names options resolve ready l)

private theorem grounded_argv (names : p.MayName c volumes named) (options : FlowOptions)
    (resolve : Resolver) {steps : List GraphStep} {scope : Scope}
    (ready : Ready named steps scope) :
    Grounded named (steps ++ p.argv options resolve scope c) := by
  unfold argv
  split
  · rw [List.append_nil]
    exact ready.grounded
  · have here := ready_arguments names ready
    dsimp only
    rw [← List.append_assoc, ← List.append_assoc]
    refine (ready_launches names options resolve ?_ _).grounded
    split
    · rw [List.append_nil]
      exact here.ready
    · exact ready_argumentSink names here options.sinks _

theorem grounded_container {file : String} {c : Container} {volumes : List Volume}
    (names : (Place.ofContainer file volumes c).MayName c volumes named) (options : FlowOptions)
    (cluster : Option Cluster) (resolve : Resolver) {steps : List GraphStep}
    (grounded : Grounded named steps) :
    Grounded named (steps ++ container file options cluster resolve volumes c) := by
  have start : Ready named (steps ++ ({ scope := {} } : Walked).steps) ({} : Scope) := by
    rw [List.append_nil]
    exact ⟨grounded, by simp [Scope.bindings]⟩
  have imported := Ready.foldl
    (fun e he _ _ here => ready_envImport names cluster here (e := e) he) start
  have set := Ready.foldl
    (fun e he _ _ here => ready_envVariable names options here (e := e) he) imported
  have mounted := Ready.foldl (fun m hm _ _ here => ready_volumeMount names here (m := m) hm) set
  unfold container
  dsimp only
  rw [← List.append_assoc]
  exact grounded_argv names options resolve mounted

end SecretFlow.Place

namespace SecretFlow.Manifest

def Names (m : Manifest) (n : Node) : Prop :=
  ∃ pod c label, m.pod? = some pod ∧ c ∈ pod.containers ∧
    n.id = (Place.ofContainer m.file pod.volumes c).id label ∧ c.Labels pod.volumes n.kind label

private theorem grounded_notes {named : Node → Prop} {steps : List GraphStep}
    (grounded : Grounded named steps) (notes : List Diagnostic) :
    Grounded named (steps ++ notes.map .note) := by
  induction notes generalizing steps with
  | nil => simpa using grounded
  | cons d rest ih =>
    rw [List.map_cons, List.append_cons]
    exact ih (grounded.note d)

private theorem grounded_containers {m : Manifest} {pod : PodSpec} (hpod : m.pod? = some pod)
    (options : FlowOptions) (cluster : Option Cluster) (resolve : Resolver) {cs : List Container}
    (inside : cs ⊆ pod.containers) {steps : List GraphStep} (grounded : Grounded m.Names steps) :
    Grounded m.Names (steps ++
      cs.flatMap (Place.container m.file options cluster resolve pod.volumes)) := by
  induction cs generalizing steps with
  | nil => simpa using grounded
  | cons c rest ih =>
    rw [List.flatMap_cons, ← List.append_assoc]
    refine ih (fun _ h => inside (List.mem_cons_of_mem _ h)) ?_
    refine Place.grounded_container ?_ options cluster resolve grounded
    intro kind label origin payload labelled
    exact ⟨pod, c, label, hpod, inside List.mem_cons_self, rfl, labelled⟩

theorem grounded_openingSteps (m : Manifest) (named : Node → Prop) :
    Grounded named m.openingSteps := by
  have root : Grounded named [.node ⟨GraphStep.rootId, .manifestRoot,
      some (.manifest m.file "metadata"), .text s!"{m.kind}/{m.name}"⟩] := .root rfl rfl
  have noted := grounded_notes root (m.issues.map fun issue =>
    ⟨.malformedField, issue.message, some (.manifest m.file issue.field)⟩)
  rwa [List.map_map] at noted

theorem grounded_flowSteps (m : Manifest) (options : FlowOptions) (cluster : Option Cluster)
    (resolve : Resolver) : Grounded m.Names (m.flowSteps options cluster resolve) := by
  have opening := m.grounded_openingSteps m.Names
  unfold flowSteps
  dsimp only
  split
  · rwa [List.append_nil]
  · rename_i pod hpod
    exact grounded_containers hpod options cluster resolve (List.Subset.refl _) opening

end SecretFlow.Manifest

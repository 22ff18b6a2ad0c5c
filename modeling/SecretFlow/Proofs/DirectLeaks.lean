import SecretFlow.Proofs.GroundedGraphs
import SecretFlow.Proofs.KeptBindings
import SecretFlow.Proofs.MiningEffort

set_option autoImplicit false
set_option relaxedAutoImplicit false

/-!
No direct leak is missed. A statement that uses a variable taken from a secret and sends it to a
sink is linked to both, in whatever way the container comes to run it, and mining that no limit
stops reports the path between them.
-/

namespace SecretFlow

private theorem Place.id_ne_sink (id : NodeId) : id ≠ s!"{id}:sink" := by
  intro same
  have lengths := congrArg String.length same
  simp [toString] at lengths

private theorem Place.edges_statementAlone {p : Place} {scope : Scope} {name : String} {id : NodeId}
    (bound : scope.get? name = some (.toDeclaration id)) {rules : List SinkRule}
    {s : Shell.Statement} (uses : name ∈ s.variableNames) {pattern : SinkPattern}
    (sink : sinkOf? rules s = some pattern) {script : ScriptRef}
    (other : id ≠ p.statementId script s) (expanded : Bool) :
    .edge ⟨id, p.statementId script s, .injectsInto⟩ ∈
        (p.statementAlone rules script expanded scope s).steps ∧
      .edge ⟨p.statementId script s, s!"{p.statementId script s}:sink", .flowsTo⟩ ∈
        (p.statementAlone rules script expanded scope s).steps := by
  have found := mem_mentioned (p := p) bound expanded uses
  have some_found : (p.mentioned expanded scope s).bindings.isEmpty = false := by
    rw [List.isEmpty_eq_false_iff]
    exact List.ne_nil_of_mem found
  have link : .edge ⟨id, p.statementId script s, .injectsInto⟩ ∈
      linkAll (p.mentioned expanded scope s).bindings (p.statementId script s) :=
    GraphStep.mem_linkAll.mpr ⟨_, found, other, rfl⟩
  have out : .edge ⟨p.statementId script s, s!"{p.statementId script s}:sink", .flowsTo⟩ ∈
      GraphStep.edgeBetween (p.statementId script s) s!"{p.statementId script s}:sink" .flowsTo :=
    GraphStep.mem_edgeBetween.mpr ⟨id_ne_sink _, rfl⟩
  simp only [statementAlone, consumerSteps, sink, some_found, Bool.false_eq_true, if_false,
    List.mem_append, List.mem_cons]
  exact ⟨.inr (.inl (.inr link)), .inr (.inr (.inr out))⟩

namespace Graph

variable {g : Graph} {limits : MiningLimits} {first second last : Node}

theorem leakPath_of_flows (wf : g.WellFormed) (hfirst : first ∈ g.nodes)
    (hsecond : second ∈ g.nodes) (hlast : last ∈ g.nodes)
    (declares : first.kind = .secretDeclaration) (passes : second.kind ≠ .secretDeclaration)
    (inside : second.kind.isTerminal = false) (terminal : last.kind.isTerminal = true)
    (into : g.Flows first.id second.id) (out : g.Flows second.id last.id)
    (long : 2 ≤ limits.pathEdges) :
    g.LeakPath limits.pathEdges [first, second, last] where
  inGraph := by simp [hfirst, hsecond, hlast]
  simple := by
    have distinct {a b : Node} (ha : a ∈ g.nodes) (hb : b ∈ g.nodes) (kinds : a.kind ≠ b.kind) :
        a.id ≠ b.id := fun same => kinds (congrArg Node.kind (wf.eq_of_id ha hb same))
    have first_second := distinct hfirst hsecond (by
      rw [declares]
      exact passes.symm)
    have first_last := distinct hfirst hlast (by
      intro same
      rw [← same, declares] at terminal
      cases terminal)
    have second_last := distinct hsecond hlast (by
      intro same
      rw [← same, inside] at terminal
      cases terminal)
    simp [first_second, first_last, second_last]
  starts := ⟨first, rfl, declares⟩
  ends := ⟨last, rfl, terminal⟩
  inner := by simp [inside]
  long := by simp
  short := by simpa using long
  joined := by simp [into, out]

private theorem mine_short_path (wf : g.WellFormed)
    (leak : g.LeakPath limits.pathEdges [first, second, last])
    (inspected : last.kind.isUnresolved = false) (whole : (g.mine limits).truncated = none) :
    ((g.mine limits).findings.map (·.path)).count [first.id, second.id, last.id] = 1 ∧
      ∀ f ∈ (g.mine limits).findings, f.path = [first.id, second.id, last.id] →
        f.confidence = .high ∧ f.reason = .directExposure := by
  refine ⟨?_, ?_⟩
  · obtain ⟨f, hf, same⟩ := exists_mem_mine wf whole leak
    exact List.count_eq_one_of_mem (nodup_mine wf limits) (List.mem_map.mpr ⟨f, hf, same⟩)
  · intro f hf same
    obtain ⟨path, start, stop, told, _, ends, rfl⟩ := tells_of_mem_mine wf hf
    rw [Finding.ofPath_path] at same
    have last_id : stop.id = last.id := by
      have ids := congrArg List.getLast? same
      simpa [List.getLast?_map, ends] using ids
    obtain rfl : stop = last := wf.eq_of_id (told.inGraph stop (List.mem_of_getLast? ends))
      (leak.inGraph last (by simp)) last_id
    simp [Finding.ofPath, same, scorePath, LeakReason.ofPath, inspected]

private theorem mine_linked (wf : g.WellFormed) {declaration statement sink : NodeId}
    (into : ⟨declaration, statement, .injectsInto⟩ ∈ g.edges)
    (out : ⟨statement, sink, .flowsTo⟩ ∈ g.edges)
    (declares : ∀ n ∈ g.nodes, n.id = declaration → n.kind = .secretDeclaration)
    (states : ∀ n ∈ g.nodes, n.id = statement → n.kind = .scriptStatement)
    (sinks : ∀ n ∈ g.nodes, n.id = sink → n.kind.isTerminal = true ∧ n.kind.isUnresolved = false)
    (long : 2 ≤ limits.pathEdges) (whole : (g.mine limits).truncated = none) :
    ((g.mine limits).findings.map (·.path)).count [declaration, statement, sink] = 1 ∧
      ∀ f ∈ (g.mine limits).findings, f.path = [declaration, statement, sink] →
        f.confidence = .high ∧ f.reason = .directExposure := by
  obtain ⟨first, hfirst, rfl⟩ := contains_iff.mp (wf.closed _ into).1
  obtain ⟨second, hsecond, rfl⟩ := contains_iff.mp (wf.closed _ into).2
  obtain ⟨last, hlast, rfl⟩ := contains_iff.mp (wf.closed _ out).2
  obtain ⟨terminal, inspected⟩ := sinks last hlast rfl
  have statement := states second hsecond rfl
  have leak := leakPath_of_flows wf hfirst hsecond hlast (declares first hfirst rfl)
    (by simp [statement]) (by simp [statement, NodeKind.isTerminal]) terminal
    ⟨.injectsInto, rfl, into⟩ ⟨.flowsTo, rfl, out⟩ long
  exact mine_short_path wf leak inspected whole

end Graph

namespace Manifest

theorem container_subset_flowSteps {m : Manifest} {pod : PodSpec} (hpod : m.pod? = some pod)
    {c : Container} (hc : c ∈ pod.containers) (options : FlowOptions) (cluster : Option Cluster)
    (resolve : Resolver) :
    Place.container m.file options cluster resolve pod.volumes c ⊆
      m.flowSteps options cluster resolve := by
  intro step hstep
  simp only [flowSteps, hpod]
  exact List.mem_append_right _ (List.mem_flatMap.mpr ⟨c, hc, hstep⟩)

section Leak

variable {m : Manifest} {options : FlowOptions} {cluster : Option Cluster} {resolve : Resolver}
  {pod : PodSpec} {c : Container} {e : EnvVariable} {script : ScriptRef} {text : String}
  {s : Shell.Statement} {pattern : SinkPattern}

private theorem linked_of_use (plain : m.PlainNames) (hpod : m.pod? = some pod)
    (hc : c ∈ pod.containers) (takes : c.TakesSecret e)
    (unset : (Place.ofContainer m.file pod.volumes c).NeverSets options resolve c e.name)
    (runs : (Place.ofContainer m.file pod.volumes c).Runs options resolve c script text)
    (hs : s ∈ Shell.statements text) (uses : e.name ∈ s.variableNames)
    (sink : Place.sinkOf? options.sinks s = some pattern) (cluster : Option Cluster) :
    let g := m.flowGraph options cluster resolve
    let p := Place.ofContainer m.file pod.volumes c
    ⟨p.id s!"env:{e.name}", p.statementId script s, .injectsInto⟩ ∈ g.edges ∧
      ⟨p.statementId script s, s!"{p.statementId script s}:sink", .flowsTo⟩ ∈ g.edges := by
  intro g p
  obtain ⟨secret, key, source⟩ := takes.source
  have declared : c.Labels pod.volumes .secretDeclaration s!"env:{e.name}" :=
    .secretVariable takes.mem_env source
  have other : p.id s!"env:{e.name}" ≠ p.statementId script s :=
    declared.id_ne (.statement script s.line s.index) (by decide) (plain pod hpod c hc)
  obtain ⟨inner, whole, bound, taken⟩ := takes.exists_steps unset runs hs cluster
  obtain ⟨into, out⟩ := Place.edges_statementAlone bound uses sink other whole
  have built {edge : Edge}
      (made : .edge edge ∈ (p.statementAlone options.sinks script whole inner s).steps) :
      edge ∈ g.edges :=
    (m.grounded_flowSteps options cluster resolve).edge_mem m.unitId
      (container_subset_flowSteps hpod hc options cluster resolve (taken made))
  exact ⟨built into, built out⟩

private theorem reported_of_linked (plain : m.PlainNames) (hpod : m.pod? = some pod)
    (hc : c ∈ pod.containers) (takes : c.TakesSecret e) :
    let g := m.flowGraph options cluster resolve
    let p := Place.ofContainer m.file pod.volumes c
    let path := [p.id s!"env:{e.name}", p.statementId script s, s!"{p.statementId script s}:sink"]
    ⟨p.id s!"env:{e.name}", p.statementId script s, .injectsInto⟩ ∈ g.edges →
    ⟨p.statementId script s, s!"{p.statementId script s}:sink", .flowsTo⟩ ∈ g.edges →
    ∀ limits, 2 ≤ limits.pathEdges → (g.mine limits).truncated = none →
      ((g.mine limits).findings.map (·.path)).count path = 1 ∧
      ∀ f ∈ (g.mine limits).findings, f.path = path →
        f.confidence = .high ∧ f.reason = .directExposure := by
  intro g p path into out limits long whole
  obtain ⟨secret, key, source⟩ := takes.source
  refine Graph.mine_linked (wellFormed_graphOf _ _) into out ?_ ?_ ?_ long whole
  · intro n hn id
    have label := label_of_id plain hpod hc (.secretVariable takes.mem_env source) hn id
    exact NodeKind.eq_of_label label rfl
  · intro n hn id
    have label := label_of_id plain hpod hc (.statement script s.line s.index) hn id
    exact NodeKind.eq_of_label label rfl
  · intro n hn id
    have label := label_of_id plain hpod hc (.statementSink script s.line s.index .stdout "") hn
      (id.trans (Place.sink_id p script s))
    exact ⟨NodeKind.isTerminal_of_label label, NodeKind.isUnresolved_of_label label⟩

end Leak

/-- No direct leak is missed. Let a container, of a manifest whose containers have no colon in their
names, take a variable from a key of a secret, and let no script that the container comes to run set
the variable. Then every statement of such a script that uses the variable and is a sink is linked
to the declaration and to the sink, and mining that no limit stops reports the path exactly once, as
a direct exposure of high confidence. -/
theorem direct_leak_reported (m : Manifest) (options : FlowOptions) (cluster : Option Cluster)
    (resolve : Resolver) (plain : m.PlainNames) {pod : PodSpec} (hpod : m.pod? = some pod)
    {c : Container} (hc : c ∈ pod.containers) {e : EnvVariable} (takes : c.TakesSecret e)
    (unset : (Place.ofContainer m.file pod.volumes c).NeverSets options resolve c e.name)
    {script : ScriptRef} {text : String}
    (runs : (Place.ofContainer m.file pod.volumes c).Runs options resolve c script text)
    {s : Shell.Statement} (hs : s ∈ Shell.statements text) (uses : e.name ∈ s.variableNames)
    {pattern : SinkPattern} (sink : Place.sinkOf? options.sinks s = some pattern) :
    let g := m.flowGraph options cluster resolve
    let p := Place.ofContainer m.file pod.volumes c
    let path := [p.id s!"env:{e.name}", p.statementId script s, s!"{p.statementId script s}:sink"]
    ⟨p.id s!"env:{e.name}", p.statementId script s, .injectsInto⟩ ∈ g.edges ∧
    ⟨p.statementId script s, s!"{p.statementId script s}:sink", .flowsTo⟩ ∈ g.edges ∧
    ∀ limits, 2 ≤ limits.pathEdges → (g.mine limits).truncated = none →
      ((g.mine limits).findings.map (·.path)).count path = 1 ∧
      ∀ f ∈ (g.mine limits).findings, f.path = path →
        f.confidence = .high ∧ f.reason = .directExposure := by
  intro g p path
  obtain ⟨into, out⟩ := linked_of_use plain hpod hc takes unset runs hs uses sink cluster
  exact ⟨into, out, reported_of_linked plain hpod hc takes into out⟩

/-- The secret is printed by a script that the container reads into its shell. -/
theorem direct_leak_reported_sourced :
    let g := (shellPod [⟨"TOKEN", .secretKey "api" "token", "env[0]"⟩] ". ./print.sh").flowGraph
      .echoing none (.ofTable [("file:./print.sh", "echo $TOKEN")])
    let path :=
      ["c:app:env:TOKEN", "c:app:file:./print.sh:1.0", "c:app:file:./print.sh:1.0:sink"]
    ⟨"c:app:env:TOKEN", "c:app:file:./print.sh:1.0", .injectsInto⟩ ∈ g.edges ∧
    ⟨"c:app:file:./print.sh:1.0", "c:app:file:./print.sh:1.0:sink", .flowsTo⟩ ∈ g.edges ∧
    (g.mine).truncated = none ∧ ((g.mine).findings.map (·.path)).count path = 1 := by
  intro g path
  let token : EnvVariable := ⟨"TOKEN", .secretKey "api" "token", "env[0]"⟩
  let c : Container := .shell [token] ". ./print.sh"
  let p := Place.ofContainer "pod.yaml" [] c
  let resolve : Resolver := .ofTable [("file:./print.sh", "echo $TOKEN")]
  let script : ScriptRef := .path "./print.sh"
  have takes : c.TakesSecret token := ⟨⟨[], [], rfl, List.forall_mem_nil _⟩, "api", "token", rfl⟩
  have unset : p.NeverSets .echoing resolve c "TOKEN" := by decide +kernel
  have runs : p.Runs .echoing resolve c script "echo $TOKEN" := by decide +kernel
  obtain ⟨s, hs, line, index, uses, sink⟩ : ∃ s ∈ Shell.statements "echo $TOKEN", s.line = 1 ∧
      s.index = 0 ∧ "TOKEN" ∈ s.variableNames ∧
      Place.sinkOf? FlowOptions.echoing.sinks s = some ⟨"echo", .stdout, "^echo"⟩ := by
    decide +kernel
  obtain ⟨into, out, reported⟩ := direct_leak_reported (shellPod [token] ". ./print.sh") .echoing
    none resolve (plain_shellPod _ _) rfl (List.mem_singleton_self c) takes unset runs hs uses sink
  have env_id : p.id s!"env:{token.name}" = "c:app:env:TOKEN" := by decide +kernel
  have id : p.statementId script s = "c:app:file:./print.sh:1.0" := by
    rw [Place.statementId, line, index]
    decide +kernel
  have sink_id : s!"{p.statementId script s}:sink" = "c:app:file:./print.sh:1.0:sink" := by
    rw [id]
    decide +kernel
  have whole : (g.mine).truncated = none :=
    Graph.truncated_mine_of_effort (wellFormed_graphOf _ _) (by decide +kernel) (by decide +kernel)
  simp only [path]
  rw [← env_id, ← sink_id, ← id]
  exact ⟨into, out, whole, (reported {} (by decide) whole).1⟩

end Manifest

end SecretFlow

import SecretFlow.Proofs.GraphStore
import SecretFlow.Proofs.GroundedFlow

set_option autoImplicit false
set_option relaxedAutoImplicit false

/-!
Graphs that are built in grounded steps. No edge is refused, every script that was not walked is
noted, and if ids stand for kinds then each node is of the kind it was made as.
-/

namespace SecretFlow

namespace NodeKind

theorem eq_of_label {a b : NodeKind} (same : a.label = b.label) (inner : b.isTerminal = false) :
    a = b := by
  cases a <;> cases b <;> simp [label] at same <;> first | rfl | cases inner

theorem holds_of_label {a b : NodeKind} (same : a.label = b.label) : a.holds = b.holds := by
  cases a <;> cases b <;> simp [label] at same <;> rfl

theorem uses_of_label {a b : NodeKind} (same : a.label = b.label) : a.uses = b.uses := by
  cases a <;> cases b <;> simp [label] at same <;> rfl

theorem isTerminal_of_label {a b : NodeKind} (same : a.label = b.label) :
    a.isTerminal = b.isTerminal := by
  cases a <;> cases b <;> simp [label] at same <;> rfl

theorem isUnresolved_of_label {a b : NodeKind} (same : a.label = b.label) :
    a.isUnresolved = b.isUnresolved := by
  cases a <;> cases b <;> simp [label] at same <;> rfl

end NodeKind

namespace GraphStep

theorem mem_edgeBetween {source target : NodeId} {relation : Relation} {s : GraphStep} :
    s ∈ edgeBetween source target relation ↔
      source ≠ target ∧ s = .edge ⟨source, target, relation⟩ := by
  unfold edgeBetween
  split
  · rename_i same
    simp [same]
  · rename_i other
    simp [other]

theorem mem_linkAll {bindings : List Binding} {target : NodeId} {s : GraphStep} :
    s ∈ linkAll bindings target ↔ ∃ b ∈ bindings, b.node ≠ target ∧
      s = .edge ⟨b.node, target, if b.direct then .injectsInto else .referencedBy⟩ := by
  simp only [linkAll, List.mem_flatMap, Binding.link, mem_edgeBetween]

end GraphStep

open GraphStep (mem_edgeBetween mem_linkAll)

abbrev graphOf (unit : String) (steps : List GraphStep) : Graph :=
  ({ unit := unit } : Graph).run steps

theorem wellFormed_graphOf (unit : String) (steps : List GraphStep) :
    (graphOf unit steps).WellFormed :=
  Graph.wellFormed_run (Graph.wellFormed_empty unit) steps

theorem node_step_of_mem {unit : String} {steps : List GraphStep} {n : Node}
    (hn : n ∈ (graphOf unit steps).nodes) : .node n ∈ steps := by
  simpa using Graph.mem_run_nodes hn

theorem edge_step_of_mem {unit : String} {steps : List GraphStep} {e : Edge}
    (he : e ∈ (graphOf unit steps).edges) : .edge e ∈ steps := by
  simpa using Graph.mem_run_edges he

theorem Binding.HeldBy.contains {b : Binding} {steps : List GraphStep} (held : b.HeldBy steps)
    (unit : String) : (graphOf unit steps).contains b.node := by
  obtain ⟨n, hn, same, _⟩ := held
  exact same ▸ Graph.contains_run hn

theorem UsedBy.contains {id : NodeId} {steps : List GraphStep} (used : UsedBy id steps)
    (unit : String) : (graphOf unit steps).contains id := by
  obtain ⟨n, hn, same, _⟩ := used
  exact same ▸ Graph.contains_run hn

inductive Made (named : Node → Prop) (steps : List GraphStep) (n : Node) : Prop
  | root : n.id = GraphStep.rootId → n.kind = .manifestRoot → Made named steps n
  | declaration : named n → n.kind = .secretDeclaration → Made named steps n
  | carrier : named n → (n.kind.holds || n.kind.uses) = true → Made named steps n
  | sink {sink : SinkKind} {pattern : String} : named n → n.kind = .externalSink sink pattern →
      Made named steps n
  | deadEnd {cause : UnresolvedCause} {d : Diagnostic} : named n → n.kind = .unresolved cause →
      .note d ∈ steps → d.kind.degrades = true → Made named steps n

private theorem Made.append {named : Node → Prop} {steps : List GraphStep} {n : Node}
    (made : Made named steps n) (more : List GraphStep) : Made named (steps ++ more) n := by
  cases made with
  | root id kind => exact .root id kind
  | declaration hnamed kind => exact .declaration hnamed kind
  | carrier hnamed kind => exact .carrier hnamed kind
  | sink hnamed kind => exact .sink hnamed kind
  | deadEnd hnamed kind noted degrades =>
    exact .deadEnd hnamed kind (List.mem_append_left _ noted) degrades

namespace Grounded

variable {named : Node → Prop} {steps : List GraphStep}

theorem made (grounded : Grounded named steps) {n : Node} (hn : .node n ∈ steps) :
    Made named steps n := by
  induction grounded with
  | root id kind =>
    obtain rfl : n = _ := by simpa using hn
    exact .root id kind
  | note d _ ih => exact (ih (by simpa using hn)).append _
  | declare _ hnamed ih =>
    rcases List.mem_append.mp hn with old | new
    · exact (ih old).append _
    · obtain rfl : n = _ := by simpa [GraphStep.declaration, mem_edgeBetween] using new
      exact .declaration hnamed rfl
  | carry _ hnamed carries _ _ ih =>
    rcases List.mem_append.mp hn with old | new
    · exact (ih old).append _
    · obtain rfl : n = _ := by simpa [mem_linkAll] using new
      exact .carrier hnamed carries
  | sink _ _ hnamed kind _ ih =>
    rcases List.mem_append.mp hn with old | new
    · exact (ih old).append _
    · obtain rfl : n = _ := by simpa [mem_edgeBetween] using new
      exact .sink hnamed kind
  | deadEnd _ hnamed kind degrades _ ih =>
    rcases List.mem_append.mp hn with old | new
    · exact (ih old).append _
    · obtain rfl : n = _ := by simpa [mem_linkAll] using new
      exact .deadEnd hnamed kind (by simp) degrades

theorem graphOf_append (unit : String) (steps more : List GraphStep) :
    graphOf unit (steps ++ more) = (graphOf unit steps).run more :=
  Graph.run_append _ _ _

theorem contains_root (grounded : Grounded named steps) (unit : String) :
    (graphOf unit steps).contains GraphStep.rootId := by
  induction grounded with
  | root id _ => exact id ▸ Graph.contains_run List.mem_cons_self
  | note _ _ ih => exact graphOf_append unit _ _ ▸ (Graph.extends_run _ _).contains ih
  | declare _ _ ih => exact graphOf_append unit _ _ ▸ (Graph.extends_run _ _).contains ih
  | carry _ _ _ _ _ ih => exact graphOf_append unit _ _ ▸ (Graph.extends_run _ _).contains ih
  | sink _ _ _ _ _ ih => exact graphOf_append unit _ _ ▸ (Graph.extends_run _ _).contains ih
  | deadEnd _ _ _ _ _ ih => exact graphOf_append unit _ _ ▸ (Graph.extends_run _ _).contains ih

private theorem edge_mem_links {g : Graph} {n : Node} {links : List GraphStep} {e : Edge}
    (he : .edge e ∈ links) (source : g.contains e.source) (target : e.target = n.id) :
    e ∈ (g.run (.node n :: links)).edges := by
  rw [Graph.run_cons]
  refine Graph.edge_mem_run he ((Graph.extends_step g _).contains source) ?_
  rw [target]
  exact Graph.contains_step_node g n

private theorem edge_mem_linkAll {g : Graph} {n : Node} {bindings : List Binding} {e : Edge}
    (held : ∀ b ∈ bindings, g.contains b.node) (he : .edge e ∈ linkAll bindings n.id) :
    e ∈ (g.run (.node n :: linkAll bindings n.id)).edges := by
  obtain ⟨b, hb, _, eq⟩ := mem_linkAll.mp he
  obtain rfl := GraphStep.edge.inj eq
  exact edge_mem_links he (held b hb) rfl

/-- No edge is refused: both of its ends are nodes by then. -/
theorem edge_mem (grounded : Grounded named steps) (unit : String) {e : Edge}
    (he : .edge e ∈ steps) : e ∈ (graphOf unit steps).edges := by
  induction grounded with
  | root _ _ => simp at he
  | note d _ ih =>
    rw [graphOf_append]
    exact (Graph.extends_run _ _).edges (ih (by simpa using he))
  | @declare steps id origin payload before _ ih =>
    rw [graphOf_append]
    rcases List.mem_append.mp he with old | new
    · exact (Graph.extends_run _ _).edges (ih old)
    · have link : .edge e ∈ GraphStep.edgeBetween GraphStep.rootId id .declares := by
        simpa [GraphStep.declaration] using new
      obtain ⟨_, eq⟩ := mem_edgeBetween.mp link
      obtain rfl := GraphStep.edge.inj eq
      exact edge_mem_links link (before.contains_root unit) rfl
  | carry _ _ _ _ held ih =>
    rw [graphOf_append]
    rcases List.mem_append.mp he with old | new
    · exact (Graph.extends_run _ _).edges (ih old)
    · exact edge_mem_linkAll (fun b hb => (held b hb).contains unit) (by simpa using new)
  | sink users _ _ _ used ih =>
    rw [graphOf_append]
    rcases List.mem_append.mp he with old | new
    · exact (Graph.extends_run _ _).edges (ih old)
    · have links := List.mem_cons.mp new
      simp only [reduceCtorEq, false_or] at links
      obtain ⟨id, hid, link⟩ := List.mem_flatMap.mp links
      obtain ⟨_, eq⟩ := mem_edgeBetween.mp link
      obtain rfl := GraphStep.edge.inj eq
      exact edge_mem_links links ((used id hid).contains unit) rfl
  | deadEnd _ _ _ _ held ih =>
    rw [graphOf_append]
    rcases List.mem_append.mp he with old | new
    · exact (Graph.extends_run _ _).edges (ih old)
    · rw [Graph.run_cons]
      refine edge_mem_linkAll (fun b hb => ?_) (by simpa using new)
      exact (Graph.extends_step _ _).contains ((held b hb).contains unit)

private theorem kindNamed_of_step (grounded : Grounded named steps)
    (typed : ∀ n, named n → kindNamed n.id = n.kind.label) {n : Node} (hn : .node n ∈ steps) :
    kindNamed n.id = n.kind.label := by
  cases grounded.made hn with
  | root id kind =>
    rw [id, kind]
    decide
  | declaration hnamed | carrier hnamed | sink hnamed | deadEnd hnamed => exact typed n hnamed

theorem kindNamed_of_mem (grounded : Grounded named steps)
    (typed : ∀ n, named n → kindNamed n.id = n.kind.label) {unit : String} {n : Node}
    (hn : n ∈ (graphOf unit steps).nodes) : kindNamed n.id = n.kind.label :=
  grounded.kindNamed_of_step typed (node_step_of_mem hn)

/-- If ids stand for kinds, each node that was made is in the graph with its kind, whatever other
nodes were made under its id. -/
theorem exists_node (grounded : Grounded named steps)
    (typed : ∀ n, named n → kindNamed n.id = n.kind.label) (unit : String) {n : Node}
    (hn : .node n ∈ steps) :
    ∃ a ∈ (graphOf unit steps).nodes, a.id = n.id ∧ a.kind.label = n.kind.label := by
  obtain ⟨a, ha, same⟩ := Graph.contains_iff.mp (Graph.contains_run (g := { unit := unit }) hn)
  refine ⟨a, ha, same, ?_⟩
  rw [← grounded.kindNamed_of_mem typed ha, ← grounded.kindNamed_of_step typed hn, same]

end Grounded

namespace Manifest

/-- No container has a colon in its name. -/
def PlainNames (m : Manifest) : Prop :=
  ∀ pod, m.pod? = some pod → ∀ c ∈ pod.containers, ':' ∉ c.name.toList

theorem kindNamed_of_names {m : Manifest} (plain : m.PlainNames) {n : Node}
    (named : m.Names n) : kindNamed n.id = n.kind.label := by
  obtain ⟨pod, c, label, hpod, hc, same, labelled⟩ := named
  rw [same]
  exact labelled.kindNamed_id (plain pod hpod c hc)

theorem label_of_id {m : Manifest} (plain : m.PlainNames) {options : FlowOptions}
    {cluster : Option Cluster} {resolve : Resolver} {pod : PodSpec}
    (hpod : m.pod? = some pod) {c : Container} (hc : c ∈ pod.containers) {kind : NodeKind}
    {label : String} (labelled : c.Labels pod.volumes kind label) {n : Node}
    (hn : n ∈ (m.flowGraph options cluster resolve).nodes)
    (id : n.id = (Place.ofContainer m.file pod.volumes c).id label) :
    n.kind.label = kind.label := by
  rw [← (m.grounded_flowSteps options cluster resolve).kindNamed_of_mem
    (fun _ named => kindNamed_of_names plain named) hn, id]
  exact labelled.kindNamed_id (plain pod hpod c hc)

end Manifest

def Container.shell (env : List EnvVariable) (text : String) : Container where
  name := "app"
  field := "spec.containers[0]"
  command := ["sh", "-c", text]
  args := []
  env := env
  envFrom := []
  mounts := []

namespace Manifest

def shellPod (env : List EnvVariable) (text : String) : Manifest where
  file := "pod.yaml"
  docIndex := 0
  apiVersion := "v1"
  kind := "Pod"
  name := "job"
  nameSpace := none
  contentHash := ""
  body := .workload { field := "spec", containers := [.shell env text] }
  issues := []

theorem plain_shellPod (env : List EnvVariable) (text : String) :
    (shellPod env text).PlainNames := by
  rintro pod ⟨⟩ c hc
  obtain rfl := List.mem_singleton.mp hc
  exact (by decide : ':' ∉ "app".toList)

end Manifest

/-- Options under which statements that start with `echo` are sinks. -/
def FlowOptions.echoing : FlowOptions where
  sinks := [⟨⟨"echo", .stdout, "^echo"⟩, fun text => "echo".toList.isPrefixOf text.toList⟩]

end SecretFlow

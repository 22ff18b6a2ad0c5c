import Mathlib.Logic.Relation
import SecretFlow.Proofs.GroundedGraphs
import SecretFlow.Proofs.LeakPaths

set_option autoImplicit false
set_option relaxedAutoImplicit false

/-!
Where taint comes from. In the flow graph of a manifest, every node that passes secrets on can be
reached from a declaration, and edges of the flow start at declarations and at such nodes only.
Without a source of secrets there is nothing to find.
-/

namespace SecretFlow

/-- Secrets flow from some declaration to an id. -/
def Graph.Tainted (g : Graph) (id : NodeId) : Prop :=
  ∃ d ∈ g.nodes, d.kind = .secretDeclaration ∧ Relation.ReflTransGen g.Flows d.id id

/-- Secrets flow to every node that passes them on, and to every start of a flow edge. -/
structure Graph.Provenance (g : Graph) : Prop where
  carriers : ∀ n ∈ g.nodes, (n.kind.holds || n.kind.uses) = true → g.Tainted n.id
  edges : ∀ e ∈ g.edges, e.relation.isFlow = true → g.Tainted e.source

namespace Graph

private theorem Tainted.extend {g h : Graph} {id : NodeId} (tainted : g.Tainted id)
    (ext : g.Extends h) : h.Tainted id := by
  obtain ⟨d, hd, declares, path⟩ := tainted
  exact ⟨d, ext.nodes hd, declares,
    Relation.ReflTransGen.mono (fun _ _ flow => ext.flows flow) _ _ path⟩

private theorem Tainted.flows {g : Graph} {a b : NodeId} (tainted : g.Tainted a)
    (flow : g.Flows a b) : g.Tainted b := by
  obtain ⟨d, hd, declares, path⟩ := tainted
  exact ⟨d, hd, declares, path.tail flow⟩

private theorem Provenance.run {g : Graph} (prov : g.Provenance) {steps : List GraphStep}
    (nodes : ∀ n, .node n ∈ steps → (n.kind.holds || n.kind.uses) = true →
      (g.run steps).Tainted n.id)
    (edges : ∀ e, .edge e ∈ steps → e.relation.isFlow = true → (g.run steps).Tainted e.source) :
    (g.run steps).Provenance := by
  have ext := extends_run g steps
  refine ⟨?_, ?_⟩
  · intro n hn carries
    rcases mem_run_nodes hn with old | new
    · exact (prov.carriers n old carries).extend ext
    · exact nodes n new carries
  · intro e he flow
    rcases mem_run_edges he with old | new
    · exact (prov.edges e old flow).extend ext
    · exact edges e new flow

end Graph

open GraphStep (mem_edgeBetween mem_linkAll)

namespace Grounded

variable {named : Node → Prop} {steps : List GraphStep} {unit : String}

private theorem tainted_of_held (grounded : Grounded named steps)
    (typed : ∀ n, named n → kindNamed n.id = n.kind.label)
    (prov : (graphOf unit steps).Provenance) {b : Binding} (held : b.HeldBy steps) :
    (graphOf unit steps).Tainted b.node := by
  obtain ⟨n, hn, same, kind⟩ := held
  obtain ⟨a, ha, id, label⟩ := grounded.exists_node typed unit hn
  rw [← same, ← id]
  split at kind
  · rw [kind] at label
    exact ⟨a, ha, NodeKind.eq_of_label label rfl, .refl⟩
  · rw [← NodeKind.holds_of_label label] at kind
    exact prov.carriers a ha (by simp [kind])

private theorem tainted_of_used (grounded : Grounded named steps)
    (typed : ∀ n, named n → kindNamed n.id = n.kind.label)
    (prov : (graphOf unit steps).Provenance) {id : NodeId} (used : UsedBy id steps) :
    (graphOf unit steps).Tainted id := by
  obtain ⟨n, hn, same, kind⟩ := used
  obtain ⟨a, ha, same', label⟩ := grounded.exists_node typed unit hn
  rw [← same, ← same']
  rw [← NodeKind.uses_of_label label] at kind
  exact prov.carriers a ha (by simp [kind])

private theorem tainted_of_link (grounded : Grounded named steps)
    (typed : ∀ n, named n → kindNamed n.id = n.kind.label)
    (prov : (graphOf unit steps).Provenance) {bindings : List Binding}
    (held : ∀ b ∈ bindings, b.HeldBy steps) {id : NodeId} {e : Edge}
    (link : .edge e ∈ linkAll bindings id) (more : List GraphStep) :
    ((graphOf unit steps).run more).Tainted e.source := by
  obtain ⟨b, hb, _, rfl⟩ : ∃ b ∈ bindings, _ ∧ e = _ := by simpa [mem_linkAll] using link
  exact (grounded.tainted_of_held typed prov (held b hb)).extend (Graph.extends_run _ _)

private theorem tainted_of_carry (grounded : Grounded named steps)
    (typed : ∀ n, named n → kindNamed n.id = n.kind.label)
    (prov : (graphOf unit steps).Provenance) {n : Node} {bindings : List Binding}
    (hnamed : named n) (carries : (n.kind.holds || n.kind.uses) = true) (some : bindings ≠ [])
    (held : ∀ b ∈ bindings, b.HeldBy steps) :
    ((graphOf unit steps).run (.node n :: linkAll bindings n.id)).Tainted n.id := by
  obtain ⟨b, hb⟩ := List.exists_mem_of_ne_nil _ some
  have source : ((graphOf unit steps).run (.node n :: linkAll bindings n.id)).Tainted b.node :=
    (grounded.tainted_of_held typed prov (held b hb)).extend (Graph.extends_run _ _)
  -- a variable assigned from itself gets no edge, but its node was tainted before
  by_cases same : b.node = n.id
  · exact same ▸ source
  · refine source.flows ⟨if b.direct then .injectsInto else .referencedBy, ?_, ?_⟩
    · cases b.direct <;> rfl
    · rw [← graphOf_append]
      refine (grounded.carry hnamed carries some held).edge_mem unit
        (List.mem_append_right _ (List.mem_cons_of_mem _ ?_))
      exact mem_linkAll.mpr ⟨b, hb, same, rfl⟩

/-- In a graph that is built in grounded steps, secrets flow to all that passes them on. -/
private theorem provenance (grounded : Grounded named steps)
    (typed : ∀ n, named n → kindNamed n.id = n.kind.label) :
    (graphOf unit steps).Provenance := by
  have empty : ({ unit := unit } : Graph).Provenance := ⟨by simp, by simp⟩
  induction grounded with
  | root _ kind =>
    refine empty.run ?_ (by simp)
    intro n hn carries
    obtain rfl : n = _ := by simpa using hn
    simp [kind, NodeKind.holds, NodeKind.uses] at carries
  | note d _ ih =>
    rw [graphOf_append]
    exact ih.run (by simp) (by simp)
  | declare _ _ ih =>
    rw [graphOf_append]
    refine ih.run ?_ ?_
    · intro n hn carries
      obtain rfl : n = _ := by simpa [GraphStep.declaration, mem_edgeBetween] using hn
      simp [NodeKind.holds, NodeKind.uses] at carries
    · intro e he flow
      obtain ⟨_, rfl⟩ : _ ∧ e = _ := by simpa [GraphStep.declaration, mem_edgeBetween] using he
      simp [Relation.isFlow] at flow
  | carry before hnamed carries some held ih =>
    rw [graphOf_append]
    refine ih.run ?_ ?_
    · intro a ha _
      obtain rfl : a = _ := by simpa [mem_linkAll] using ha
      exact before.tainted_of_carry typed ih hnamed carries some held
    · intro e he _
      exact before.tainted_of_link typed ih held (by simpa using he) _
  | sink users before _ kind used ih =>
    rw [graphOf_append]
    refine ih.run ?_ ?_
    · intro a ha carries
      obtain rfl : a = _ := by simpa [mem_edgeBetween] using ha
      simp [kind, NodeKind.holds, NodeKind.uses] at carries
    · intro e he _
      obtain ⟨id, hid, _, rfl⟩ : ∃ id ∈ users, _ ∧ e = _ := by simpa [mem_edgeBetween] using he
      exact (before.tainted_of_used typed ih (used id hid)).extend (Graph.extends_run _ _)
  | deadEnd before _ kind _ held ih =>
    rw [graphOf_append]
    refine ih.run ?_ ?_
    · intro a ha carries
      obtain rfl : a = _ := by simpa [mem_linkAll] using ha
      simp [kind, NodeKind.holds, NodeKind.uses] at carries
    · intro e he _
      exact before.tainted_of_link typed ih held (by simpa using he) _

private theorem not_heldBy (grounded : Grounded named steps)
    (undeclared : ∀ n, named n → n.kind ≠ .secretDeclaration)
    (free : ∀ n, .node n ∈ steps → (n.kind.holds || n.kind.uses) = false) (b : Binding) :
    ¬ b.HeldBy steps := by
  rintro ⟨n, hn, _, kind⟩
  split at kind
  · cases grounded.made hn with
    | root _ root =>
      rw [root] at kind
      cases kind
    | declaration hnamed | carrier hnamed | sink hnamed | deadEnd hnamed =>
      exact undeclared n hnamed kind
  · have passes := free n hn
    simp [kind] at passes

private theorem unlinked (grounded : Grounded named steps)
    (undeclared : ∀ n, named n → n.kind ≠ .secretDeclaration) :
    (∀ e, .edge e ∉ steps) ∧
      ∀ n, .node n ∈ steps → (n.kind.holds || n.kind.uses) = false := by
  induction grounded with
  | root _ kind =>
    refine ⟨by simp, ?_⟩
    intro n hn
    obtain rfl : n = _ := by simpa using hn
    rw [kind]
    rfl
  | note d _ ih =>
    exact ⟨fun e he => ih.1 e (by simpa using he), fun n hn => ih.2 n (by simpa using hn)⟩
  | declare _ hnamed _ => exact absurd rfl (undeclared _ hnamed)
  | carry before _ _ some held ih =>
    obtain ⟨b, hb⟩ := List.exists_mem_of_ne_nil _ some
    exact absurd (held b hb) (before.not_heldBy undeclared ih.2 b)
  | sink users before _ kind used ih =>
    refine ⟨?_, ?_⟩
    · intro e he
      rcases List.mem_append.mp he with old | new
      · exact ih.1 e old
      · obtain ⟨id, hid, _⟩ : ∃ id ∈ users, _ ∧ e = _ := by simpa [mem_edgeBetween] using new
        obtain ⟨n, hn, _, uses⟩ := used id hid
        have passes := ih.2 n hn
        simp [uses] at passes
    · intro n hn
      rcases List.mem_append.mp hn with old | new
      · exact ih.2 n old
      · obtain rfl : n = _ := by simpa [mem_edgeBetween] using new
        rw [kind]
        rfl
  | @deadEnd _ _ _ _ bindings before _ kind _ held ih =>
    refine ⟨?_, ?_⟩
    · intro e he
      rcases List.mem_append.mp he with old | new
      · exact ih.1 e old
      · obtain ⟨b, hb, _⟩ : ∃ b ∈ bindings, _ ∧ e = _ := by simpa [mem_linkAll] using new
        exact before.not_heldBy undeclared ih.2 b (held b hb)
    · intro n hn
      rcases List.mem_append.mp hn with old | new
      · exact ih.2 n old
      · obtain rfl : n = _ := by simpa [mem_linkAll] using new
        rw [kind]
        rfl

end Grounded

private theorem Graph.mine_of_undeclared {g : Graph}
    (undeclared : ∀ n ∈ g.nodes, n.kind ≠ .secretDeclaration) (limits : MiningLimits) :
    g.mine limits = ⟨[], none, 0⟩ := by
  have sources : g.live.sources = [] := by
    rw [List.eq_nil_iff_forall_not_mem]
    intro n hn
    obtain ⟨hnode, declares, _⟩ := mem_live_sources.mp hn
    exact undeclared n hnode declares
  have idle : g.live.pass limits = fun m _ => m := by
    funext m edges
    rw [LiveGraph.pass, sources, List.foldl_nil]
  have start : limits.passes.foldl (g.live.pass limits) {} = {} := by
    rw [idle]
    exact List.foldlRecOn (motive := (· = ({} : Mining))) _ _ rfl fun _ same _ _ => same
  unfold mine
  rw [start]

/-- A container without a source of secrets: no variable from a key of a secret, no secret whose
keys all become variables, and no volume of a secret. -/
structure Container.SecretFree (c : Container) (volumes : List Volume) : Prop where
  env : ∀ e ∈ c.env, ∀ secret key, e.source ≠ .secretKey secret key
  envFrom : ∀ e ∈ c.envFrom, ∀ secret, e.source ≠ .secret secret
  mounts : ∀ m ∈ c.mounts, ∀ secret items,
    (volume? volumes m.name).map Volume.source ≠ some (.secret secret items)

namespace Manifest

section Sources

variable {m : Manifest} {options : FlowOptions} {cluster : Option Cluster} {resolve : Resolver}

private theorem provenance_flowGraph (plain : m.PlainNames) :
    (m.flowGraph options cluster resolve).Provenance :=
  (m.grounded_flowSteps options cluster resolve).provenance
    fun _ named => kindNamed_of_names plain named

def SecretFree (m : Manifest) : Prop :=
  ∀ pod, m.pod? = some pod → ∀ c ∈ pod.containers, c.SecretFree pod.volumes

private theorem SecretFree.undeclared (free : m.SecretFree) {n : Node} (named : m.Names n) :
    n.kind ≠ .secretDeclaration := by
  obtain ⟨pod, c, label, hpod, hc, _, labelled⟩ := named
  have none := free pod hpod c hc
  intro kind
  rw [kind] at labelled
  cases labelled with
  | imported he source => exact none.envFrom _ he _ source
  | secretVariable he source => exact none.env _ he _ _ source
  | secretVolume hm source => exact none.mounts _ hm _ _ source

private theorem SecretFree.edges (free : m.SecretFree) :
    (m.flowGraph options cluster resolve).edges = [] := by
  rw [List.eq_nil_iff_forall_not_mem]
  intro e he
  have grounded := m.grounded_flowSteps options cluster resolve
  exact (grounded.unlinked fun _ named => free.undeclared named).1 e (edge_step_of_mem he)

private theorem SecretFree.kind (free : m.SecretFree) {n : Node}
    (hn : n ∈ (m.flowGraph options cluster resolve).nodes) :
    n.id = GraphStep.rootId ∧ n.kind = .manifestRoot ∨
      (∃ sink pattern, n.kind = .externalSink sink pattern) ∨
      ∃ cause, n.kind = .unresolved cause := by
  have grounded := m.grounded_flowSteps options cluster resolve
  have step : .node n ∈ m.flowSteps options cluster resolve := node_step_of_mem hn
  cases grounded.made step with
  | root id kind => exact .inl ⟨id, kind⟩
  | declaration hnamed kind => exact absurd kind (free.undeclared hnamed)
  | carrier _ carries =>
    have passes := (grounded.unlinked fun _ named => free.undeclared named).2 n step
    rw [carries] at passes
    cases passes
  | sink _ kind => exact .inr (.inl ⟨_, _, kind⟩)
  | deadEnd _ kind => exact .inr (.inr ⟨_, kind⟩)

private theorem SecretFree.mine (free : m.SecretFree) (limits : MiningLimits) :
    (m.flowGraph options cluster resolve).mine limits = ⟨[], none, 0⟩ := by
  refine Graph.mine_of_undeclared ?_ limits
  intro n hn declares
  rcases free.kind hn with ⟨_, kind⟩ | ⟨_, _, kind⟩ | ⟨_, kind⟩ <;> rw [kind] at declares <;>
    cases declares

end Sources

/-- Taint has a source. In the flow graph of a manifest whose containers have no colon in their
names, secrets flow from a declaration to every variable, mount, argument and statement that has a
node, and to the start of every flow edge. If no container has a source of secrets, there are no
edges at all, only the root, sinks and scripts that were not inspected are nodes, and mining finds
and explores nothing. -/
theorem taint_provenance (m : Manifest) (options : FlowOptions) (cluster : Option Cluster)
    (resolve : Resolver) (plain : m.PlainNames) :
    let g := m.flowGraph options cluster resolve
    (∀ n ∈ g.nodes, n.kind = .envVarRef ∨ n.kind = .volumeMountRef ∨ n.kind = .commandArg ∨
      n.kind = .scriptStatement → g.Tainted n.id) ∧
    (∀ e ∈ g.edges, e.relation.isFlow = true → g.Tainted e.source) ∧
    (m.SecretFree → g.edges = [] ∧
      (∀ n ∈ g.nodes, n.id = GraphStep.rootId ∧ n.kind = .manifestRoot ∨
        (∃ sink pattern, n.kind = .externalSink sink pattern) ∨
        ∃ cause, n.kind = .unresolved cause) ∧
      ∀ limits, (g.mine limits).findings = [] ∧ (g.mine limits).explored = 0) := by
  intro g
  have prov : g.Provenance := provenance_flowGraph plain
  refine ⟨?_, prov.edges, ?_⟩
  · intro n hn kind
    refine prov.carriers n hn ?_
    rcases kind with kind | kind | kind | kind <;> rw [kind] <;> rfl
  · intro free
    refine ⟨free.edges, fun n hn => free.kind hn, ?_⟩
    intro limits
    rw [free.mine limits]
    exact ⟨rfl, rfl⟩

/-- A secret flows through a variable to the statement that prints it. Without the secret the same
text links nothing. -/
theorem taint_provenance_shellPod :
    ((shellPod [⟨"TOKEN", .secretKey "api" "token", "env[0]"⟩] "KEY=$TOKEN\necho $KEY").flowGraph
      .echoing none (.ofTable [])).Tainted "c:app:inline:app:2.0" ∧
    ((shellPod [] "KEY=$TOKEN\necho $KEY").flowGraph .echoing none (.ofTable [])).edges = [] := by
  refine ⟨?_, ?_⟩
  · obtain ⟨n, hn, id, kind⟩ : ∃ n ∈ ((shellPod [⟨"TOKEN", .secretKey "api" "token", "env[0]"⟩]
        "KEY=$TOKEN\necho $KEY").flowGraph .echoing none (.ofTable [])).nodes,
        n.id = "c:app:inline:app:2.0" ∧ n.kind = .scriptStatement := by decide +kernel
    rw [← id]
    exact (taint_provenance _ _ none _ (plain_shellPod _ _)).1 n hn (by simp [kind])
  · refine ((taint_provenance _ _ none _ (plain_shellPod _ _)).2.2 ?_).1
    rintro pod ⟨⟩ c hc
    obtain rfl := List.mem_singleton.mp hc
    exact ⟨List.forall_mem_nil _, List.forall_mem_nil _, List.forall_mem_nil _⟩

end Manifest

end SecretFlow

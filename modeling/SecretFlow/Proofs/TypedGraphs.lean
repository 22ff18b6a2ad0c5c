import Mathlib.Data.List.Perm.Basic
import SecretFlow.Proofs.GroundedGraphs

set_option autoImplicit false
set_option relaxedAutoImplicit false

/-!
Flow graphs are well typed: the relation of an edge tells the kinds of nodes that it joins. Every
edge is typed when it is made; since the ids of containers without a colon in their names stand for
kinds, it stays typed whatever other nodes are made under the ids of its ends.
-/

namespace SecretFlow

def NodeKind.isSink : NodeKind → Bool
  | .externalSink _ _ => true
  | _ => false

theorem NodeKind.isSink_of_label {a b : NodeKind} (same : a.label = b.label) :
    a.isSink = b.isSink := by
  cases a <;> cases b <;> simp [label] at same <;> rfl

/-- Whether the node stands for something that mentions names or paths, or for a script that was
not walked. -/
def NodeKind.mentions (kind : NodeKind) : Bool :=
  kind.holds || kind.uses || kind.isUnresolved

private theorem NodeKind.mentions_of_label {a b : NodeKind} (same : a.label = b.label) :
    a.mentions = b.mentions := by
  rw [mentions, mentions, holds_of_label same, uses_of_label same, isUnresolved_of_label same]

namespace Relation

/-- The kinds of nodes that an edge of a relation joins. -/
def joins : Relation → NodeKind → NodeKind → Bool
  | .declares, a, b => a = .manifestRoot && b = .secretDeclaration
  | .injectsInto, a, b => a = .secretDeclaration && b.mentions
  | .referencedBy, a, b => a.holds && b.mentions
  | .flowsTo, a, b => a.uses && b.isSink

private theorem joins_source {r : Relation} {a b : NodeKind} (joined : r.joins a b = true) :
    a.isTerminal = false := by
  cases a <;> cases r <;> simp [joins, NodeKind.holds, NodeKind.uses, NodeKind.isTerminal] at joined ⊢

theorem joins_root {r : Relation} {b : NodeKind} (joined : r.joins .manifestRoot b = true) :
    r = .declares := by
  cases r <;> simp [joins, NodeKind.holds, NodeKind.uses] at joined ⊢

theorem not_joins_root (r : Relation) (a : NodeKind) : r.joins a .manifestRoot = false := by
  cases r <;> simp [joins, NodeKind.mentions, NodeKind.holds, NodeKind.uses,
    NodeKind.isUnresolved, NodeKind.isSink]

private theorem joins_of_label {r : Relation} {a b c d : NodeKind} (source : c.label = a.label)
    (target : d.label = b.label) (joined : r.joins a b = true) : r.joins c d = true := by
  cases r with
  | declares =>
    simp only [joins, Bool.and_eq_true, decide_eq_true_eq] at joined ⊢
    obtain ⟨rfl, rfl⟩ := joined
    exact ⟨NodeKind.eq_of_label source rfl, NodeKind.eq_of_label target rfl⟩
  | injectsInto =>
    simp only [joins, Bool.and_eq_true, decide_eq_true_eq] at joined ⊢
    obtain ⟨rfl, mentions⟩ := joined
    exact ⟨NodeKind.eq_of_label source rfl, NodeKind.mentions_of_label target ▸ mentions⟩
  | referencedBy =>
    simp only [joins] at joined ⊢
    rw [NodeKind.holds_of_label source, NodeKind.mentions_of_label target, joined]
  | flowsTo =>
    simp only [joins] at joined ⊢
    rw [NodeKind.uses_of_label source, NodeKind.isSink_of_label target, joined]

end Relation

structure Graph.WellTyped (g : Graph) : Prop where
  /-- There is one root. -/
  root : ∃ root, g.nodes.filter (·.kind = .manifestRoot) = [root]
  /-- The root declares every secret. -/
  declared : ∀ r ∈ g.nodes, ∀ n ∈ g.nodes, r.kind = .manifestRoot → n.kind = .secretDeclaration →
    (⟨r.id, n.id, .declares⟩ : Edge) ∈ g.edges
  /-- Every edge is typed. -/
  joined : ∀ e ∈ g.edges, ∃ a ∈ g.nodes, ∃ b ∈ g.nodes, a.id = e.source ∧ b.id = e.target ∧
    e.relation.joins a.kind b.kind = true
  /-- Nothing flows out of terminal nodes. -/
  ended : ∀ n ∈ g.nodes, n.kind.isTerminal = true → ∀ e ∈ g.edges, e.source ≠ n.id
  /-- No edge leads back to where it starts. -/
  proper : ∀ e ∈ g.edges, e.source ≠ e.target

/-- Both ends of an edge were made by the steps, as nodes of kinds that its relation joins. -/
def LinkedBy (e : Edge) (steps : List GraphStep) : Prop :=
  e.source ≠ e.target ∧ ∃ a b, .node a ∈ steps ∧ .node b ∈ steps ∧ a.id = e.source ∧
    b.id = e.target ∧ e.relation.joins a.kind b.kind = true

private theorem LinkedBy.append {e : Edge} {steps : List GraphStep} (linked : LinkedBy e steps)
    (more : List GraphStep) : LinkedBy e (steps ++ more) := by
  obtain ⟨proper, a, b, ha, hb, rest⟩ := linked
  exact ⟨proper, a, b, List.mem_append_left _ ha, List.mem_append_left _ hb, rest⟩

open GraphStep (mem_edgeBetween mem_linkAll)

namespace Grounded

variable {named : Node → Prop} {steps : List GraphStep}

private theorem root_mem (grounded : Grounded named steps) :
    ∃ n, .node n ∈ steps ∧ n.id = GraphStep.rootId ∧ n.kind = .manifestRoot := by
  induction grounded with
  | root id kind => exact ⟨_, List.mem_cons_self, id, kind⟩
  | note _ _ ih | declare _ _ ih | carry _ _ _ _ _ ih | sink _ _ _ _ _ ih
  | deadEnd _ _ _ _ _ ih =>
    obtain ⟨n, hn, rest⟩ := ih
    exact ⟨n, List.mem_append_left _ hn, rest⟩

private theorem linkedBy_linkAll {bindings : List Binding} {n : Node} {all : List GraphStep}
    (held : ∀ b ∈ bindings, b.HeldBy steps) (mentions : n.kind.mentions = true)
    (old : steps ⊆ all) (new : .node n ∈ all) {e : Edge}
    (he : .edge e ∈ linkAll bindings n.id) : LinkedBy e all := by
  obtain ⟨b, hb, proper, eq⟩ := mem_linkAll.mp he
  obtain rfl := GraphStep.edge.inj eq
  obtain ⟨a, ha, same, kind⟩ := held b hb
  refine ⟨proper, a, n, old ha, new, same, rfl, ?_⟩
  cases direct : b.direct with
  | true => simpa [direct, Relation.joins, mentions] using kind
  | false => simpa [direct, Relation.joins, mentions] using kind

theorem linkedBy (grounded : Grounded named steps) {e : Edge} (he : .edge e ∈ steps) :
    LinkedBy e steps := by
  induction grounded with
  | root _ _ => simp at he
  | note d _ ih => exact (ih (by simpa using he)).append _
  | @declare steps id origin payload before _ ih =>
    rcases List.mem_append.mp he with old | new
    · exact (ih old).append _
    · have link : .edge e ∈ GraphStep.edgeBetween GraphStep.rootId id .declares := by
        simpa [GraphStep.declaration] using new
      obtain ⟨proper, eq⟩ := mem_edgeBetween.mp link
      obtain rfl := GraphStep.edge.inj eq
      obtain ⟨root, hroot, rootId, kind⟩ := before.root_mem
      refine ⟨proper, root, ⟨id, .secretDeclaration, some origin, payload⟩,
        List.mem_append_left _ hroot, List.mem_append_right _ List.mem_cons_self, rootId, rfl, ?_⟩
      simp [Relation.joins, kind]
  | carry _ _ carries _ held ih =>
    rcases List.mem_append.mp he with old | new
    · exact (ih old).append _
    · exact linkedBy_linkAll held (by rw [NodeKind.mentions, carries, Bool.true_or])
        (List.subset_append_left _ _)
        (List.mem_append_right _ List.mem_cons_self) (by simpa using new)
  | @sink steps n kind pattern users before _ hkind used ih =>
    rcases List.mem_append.mp he with old | new
    · exact (ih old).append _
    · have links := List.mem_cons.mp new
      simp only [reduceCtorEq, false_or] at links
      obtain ⟨id, hid, link⟩ := List.mem_flatMap.mp links
      obtain ⟨proper, eq⟩ := mem_edgeBetween.mp link
      obtain rfl := GraphStep.edge.inj eq
      obtain ⟨a, ha, same, uses⟩ := used id hid
      refine ⟨proper, a, n, List.mem_append_left _ ha,
        List.mem_append_right _ List.mem_cons_self, same, rfl, ?_⟩
      simp [Relation.joins, uses, hkind, NodeKind.isSink]
  | deadEnd _ _ unresolved _ held ih =>
    rcases List.mem_append.mp he with old | new
    · exact (ih old).append _
    · exact linkedBy_linkAll held (by rw [unresolved]; rfl) (List.subset_append_left _ _)
        (List.mem_append_right _ (List.mem_cons_of_mem _ List.mem_cons_self)) (by simpa using new)

theorem declares_mem (grounded : Grounded named steps) {n : Node} (hn : .node n ∈ steps)
    (kind : n.kind = .secretDeclaration) (other : n.id ≠ GraphStep.rootId) :
    .edge ⟨GraphStep.rootId, n.id, .declares⟩ ∈ steps := by
  induction grounded with
  | root _ root =>
    obtain rfl : n = _ := by simpa using hn
    rw [root] at kind
    cases kind
  | note d _ ih => exact List.mem_append_left _ (ih (by simpa using hn))
  | declare _ _ ih =>
    rcases List.mem_append.mp hn with old | new
    · exact List.mem_append_left _ (ih old)
    · obtain rfl : n = _ := by simpa [GraphStep.declaration, mem_edgeBetween] using new
      exact List.mem_append_right _
        (List.mem_cons_of_mem _ (mem_edgeBetween.mpr ⟨other.symm, rfl⟩))
  | carry _ _ carries _ _ ih =>
    rcases List.mem_append.mp hn with old | new
    · exact List.mem_append_left _ (ih old)
    · obtain rfl : n = _ := by simpa [mem_linkAll] using new
      simp [kind, NodeKind.holds, NodeKind.uses] at carries
  | sink _ _ _ sink _ ih =>
    rcases List.mem_append.mp hn with old | new
    · exact List.mem_append_left _ (ih old)
    · obtain rfl : n = _ := by simpa [mem_edgeBetween] using new
      rw [sink] at kind
      cases kind
  | deadEnd _ _ unresolved _ _ ih =>
    rcases List.mem_append.mp hn with old | new
    · exact List.mem_append_left _ (ih old)
    · obtain rfl : n = _ := by simpa [mem_linkAll] using new
      rw [unresolved] at kind
      cases kind

variable {unit : String}

theorem id_of_root (grounded : Grounded named steps) {n : Node}
    (hn : n ∈ (graphOf unit steps).nodes) (root : n.kind = .manifestRoot) :
    n.id = GraphStep.rootId := by
  cases grounded.made (node_step_of_mem hn) with
  | root id _ => exact id
  | declaration _ kind | sink _ kind | deadEnd _ kind =>
    rw [kind] at root
    cases root
  | carrier _ carries =>
    rw [root] at carries
    cases carries

private theorem exists_root (grounded : Grounded named steps)
    (typed : ∀ n, named n → kindNamed n.id = n.kind.label) :
    ∃ root, (graphOf unit steps).nodes.filter (·.kind = .manifestRoot) = [root] := by
  have wf := wellFormed_graphOf unit steps
  obtain ⟨n, hn, id, kind⟩ := grounded.root_mem
  obtain ⟨root, hroot, same, label⟩ := grounded.exists_node typed unit hn
  rw [kind] at label
  refine ⟨root, List.perm_singleton.mp ?_⟩
  rw [List.perm_ext_iff_of_nodup ((List.Nodup.of_map _ wf.unique).filter _)
    (List.nodup_singleton root)]
  intro a
  simp only [List.mem_filter, decide_eq_true_eq, List.mem_singleton]
  constructor
  · rintro ⟨ha, other⟩
    exact wf.eq_of_id ha hroot ((grounded.id_of_root ha other).trans (id.symm.trans same.symm))
  · rintro rfl
    exact ⟨hroot, NodeKind.eq_of_label label rfl⟩

private theorem joined (grounded : Grounded named steps)
    (typed : ∀ n, named n → kindNamed n.id = n.kind.label) {e : Edge}
    (he : e ∈ (graphOf unit steps).edges) :
    ∃ a ∈ (graphOf unit steps).nodes, ∃ b ∈ (graphOf unit steps).nodes,
      a.id = e.source ∧ b.id = e.target ∧ e.relation.joins a.kind b.kind = true := by
  obtain ⟨_, a, b, ha, hb, source, target, joins⟩ := grounded.linkedBy (edge_step_of_mem he)
  obtain ⟨c, hc, sameSource, sourceLabel⟩ := grounded.exists_node typed unit ha
  obtain ⟨d, hd, sameTarget, targetLabel⟩ := grounded.exists_node typed unit hb
  exact ⟨c, hc, d, hd, sameSource.trans source, sameTarget.trans target,
    Relation.joins_of_label sourceLabel targetLabel joins⟩

/-- If ids stand for kinds, grounded steps build a well-typed graph. -/
theorem wellTyped (grounded : Grounded named steps)
    (typed : ∀ n, named n → kindNamed n.id = n.kind.label) : (graphOf unit steps).WellTyped where
  root := grounded.exists_root typed
  declared := by
    intro r hr n hn root kind
    have other : n.id ≠ GraphStep.rootId := by
      intro same
      have label := grounded.kindNamed_of_mem typed hn
      rw [same, kind] at label
      revert label
      decide
    rw [grounded.id_of_root hr root]
    exact grounded.edge_mem unit (grounded.declares_mem (node_step_of_mem hn) kind other)
  joined e he := grounded.joined typed he
  ended := by
    intro n hn terminal e he same
    obtain ⟨a, ha, _, _, source, _, joins⟩ := grounded.joined typed he
    have passes := Relation.joins_source joins
    rw [(wellFormed_graphOf unit steps).eq_of_id ha hn (source.trans same), terminal] at passes
    cases passes
  proper e he := (grounded.linkedBy (edge_step_of_mem he)).1

end Grounded

namespace Manifest

/-- The flow graph of a manifest is well typed if no container has a colon in its name, also if
containers share names. -/
theorem wellTyped_flowGraph (m : Manifest) (options : FlowOptions) (cluster : Option Cluster)
    (resolve : Resolver) (plain : m.PlainNames) :
    (m.flowGraph options cluster resolve).WellTyped :=
  (m.grounded_flowSteps options cluster resolve).wellTyped
    fun _ named => kindNamed_of_names plain named

def podOf (containers : List Container) : Manifest :=
  { shellPod [] "" with body := .workload { field := "spec", containers } }

/-- Two containers of one name: one prints a secret, the other passes it on to a variable first, in
a statement that has the id of the first one's. -/
theorem wellTyped_flowGraph_twins :
    let token : EnvVariable := ⟨"TOKEN", .secretKey "api" "token", "env[0]"⟩
    let m := podOf [.shell [token] "echo $TOKEN", .shell [token] "KEY=$TOKEN\necho $KEY"]
    let g := m.flowGraph .echoing none (.ofTable [])
    m.PlainNames ∧ g.WellTyped ∧ g.nodes.map (·.id) = ["root", "c:app:env:TOKEN",
      "c:app:inline:app:1.0", "c:app:inline:app:1.0:sink", "c:app:inline:app:2.0",
      "c:app:inline:app:2.0:sink"] := by
  intro token m g
  have plain : m.PlainNames := by
    rintro pod ⟨⟩ c hc
    have name : c.name = "app" := by
      rcases List.mem_cons.mp hc with rfl | hc
      · rfl
      · obtain rfl := List.mem_singleton.mp hc
        rfl
    rw [name]
    decide
  exact ⟨plain, wellTyped_flowGraph m _ none _ plain, by decide +kernel⟩

end Manifest

end SecretFlow

import SecretFlow.Proofs.SeparateContainers
import SecretFlow.Proofs.StatementPlaces
import SecretFlow.Proofs.StatementUses

set_option autoImplicit false
set_option relaxedAutoImplicit false

/-!
The statements of a text that a container runs in a shell. Such a text is walked once, and no script
that it comes to run has its label; so a statement of it has a node in the flow graph if and only if
it mentions something in the scope after the statements before it, and nothing else leads to its
sink.
-/

namespace SecretFlow

open GraphStep (mem_edgeBetween rootId)

def Container.RunsText (c : Container) (text : String) : Prop :=
  (Place.inlineIndex? c.argv).bind (c.argv[·]?) = some text

instance (c : Container) (text : String) : Decidable (c.RunsText text) :=
  inferInstanceAs (Decidable (_ = _))

def Graph.HasStatement (g : Graph) (id : NodeId) : Prop :=
  ∃ n ∈ g.nodes, n.kind = .scriptStatement ∧ n.id = id

instance (g : Graph) (id : NodeId) : Decidable (g.HasStatement id) :=
  inferInstanceAs (Decidable (∃ n ∈ g.nodes, _))

namespace Container.RunsText

variable {c : Container} {text : String}

private theorem namesShell (runs : c.RunsText text) :
    ∀ first ∈ c.argv.head?, Shell.namesShell first = true := by
  intro first head
  by_contra other
  unfold RunsText at runs
  cases args : c.argv with
  | nil => simp [args] at head
  | cons a rest =>
    rw [args, List.head?_cons] at head
    obtain rfl := Option.some.inj head
    simp [Place.inlineIndex?, args, other] at runs

private theorem launches (runs : c.RunsText text) (file : String) (volumes : List Volume) :
    (Place.ofContainer file volumes c).launches c = [⟨.inline c.name text, true⟩] := by
  unfold Place.launches
  rw [runs]
  rfl

end Container.RunsText

/-- The step makes the node of an id for a statement, or an edge into the sink below it. -/
def GraphStep.UseOf (id : NodeId) : GraphStep → Prop
  | .node n => n.kind = .scriptStatement ∧ n.id = id
  | .edge e => e.relation = .flowsTo ∧ e.target = s!"{id}:sink"
  | .note _ => False

private theorem GraphStep.UseOf.isUse {id : NodeId} {st : GraphStep} (use : st.UseOf id) :
    st.IsUse := by
  cases st with
  | node n => exact use.1
  | edge e => exact use.1
  | note d => exact use

private theorem GraphStep.UseOf.unique {id other : NodeId} {st : GraphStep} (use : st.UseOf id)
    (again : st.UseOf other) : id = other := by
  cases st with
  | node n => exact use.2.symm.trans again.2
  | edge e =>
    have texts := congrArg String.toList (use.2.symm.trans again.2)
    simp only [toString, String.toList_append] at texts
    exact String.toList_injective (List.append_cancel_right texts)
  | note d => exact use.elim

private theorem Relation.eq_flowsTo_of_joins {r : Relation} {a b : NodeKind}
    (joined : r.joins a b = true) (sink : b.isSink = true) : r = .flowsTo := by
  cases b <;> cases sink
  cases r <;> simp [joins, NodeKind.mentions, NodeKind.holds, NodeKind.uses,
    NodeKind.isUnresolved] at joined ⊢

namespace Place

variable {p : Place} {options : FlowOptions} {resolve : Resolver} {v w : Visit}

private theorem useOf_of_mem_usesOn {scope : Scope} {s : Shell.Statement} {st : GraphStep}
    (use : st.IsUse) (hst : st ∈ p.usesOn options v scope s) :
    st.UseOf (p.statementId v.ref s) ∧ (p.mentioned v.expanded scope s).bindings ≠ [] := by
  unfold usesOn consumerSteps at hst
  dsimp only at hst
  rcases List.mem_append.mp hst with own | sink
  · split at own
    · cases own
    · rename_i something
      rcases List.mem_cons.mp own with rfl | link
      · exact ⟨⟨rfl, rfl⟩, by simpa using something⟩
      · exact absurd use (NoUses.linkAll _ _ st link)
  · split at sink
    · cases sink
    · rcases List.mem_cons.mp sink with rfl | edge
      · cases use
      · split at edge
        · cases edge
        · rename_i something
          obtain ⟨-, rfl⟩ := mem_edgeBetween.mp edge
          exact ⟨⟨rfl, rfl⟩, by simpa using something⟩

private theorem node_mem_usesOn {scope : Scope} {s : Shell.Statement}
    (something : (p.mentioned v.expanded scope s).bindings ≠ []) :
    .node ⟨p.statementId v.ref s, .scriptStatement, some (.script v.ref.key s.line), .text s.text⟩ ∈
      p.usesOn options v scope s := by
  unfold usesOn consumerSteps
  dsimp only
  rw [if_neg (by simpa using something)]
  exact List.mem_append_left _ List.mem_cons_self

private theorem sink_mem_usesOn {scope : Scope} {s : Shell.Statement} {pattern : SinkPattern}
    (sink : sinkOf? options.sinks s = some pattern) :
    .node ⟨s!"{p.statementId v.ref s}:sink", .externalSink pattern.kind pattern.name,
        some (.script v.ref.key s.line), .text s.text⟩ ∈ p.usesOn options v scope s := by
  unfold usesOn consumerSteps
  rw [sink]
  exact List.mem_append_right _ List.mem_cons_self

private theorem usesOn_subset_statementOn (scope : Scope) (s : Shell.Statement) :
    p.usesOn options v scope s ⊆ (p.statementOn options resolve v scope s).steps :=
  List.Subset.trans (List.subset_append_right _ _)
    (steps_statementAlone_subset p options.sinks _ v.ref v.expanded scope s)

private theorem Visits.around_subset (visits : p.Visits options resolve v w) :
    v.around ⊆ w.around := by
  induction visits with
  | itself => exact List.Subset.refl _
  | invoked _ _ _ _ ih => exact List.Subset.trans (List.subset_cons_self _ _) ih

private theorem Visits.eq_of_key (visits : p.Visits options resolve v w) {text : String}
    (opens : w.Opens resolve text) (key : w.ref.key = v.ref.key) : w = v := by
  cases visits with
  | itself => rfl
  | invoked _ _ _ further =>
    have around : v.ref.key ∈ w.around := further.around_subset List.mem_cons_self
    rw [← key] at around
    exact absurd around opens.fresh

end Place

private theorem name_eq_of_useOf {p : Place} (plain : ':' ∉ p.name.toList) {script : ScriptRef}
    {s : Shell.Statement} {d : Container} {st : GraphStep} (within : st.Within d.owns)
    (use : st.UseOf (p.statementId script s)) : d.name = p.name := by
  have named (label : String) (owned : d.owns (p.id label) = true) : d.name = p.name :=
    Option.some.inj ((of_decide_eq_true owned).symm.trans (p.containerNamed_id plain label))
  cases st with
  | node n =>
    rcases within with root | owned
    · have none := p.containerNamed_id plain s!"{script.key}:{s.line}.{s.index}"
      have same : p.id s!"{script.key}:{s.line}.{s.index}" = rootId := use.2.symm.trans root
      rw [same, containerNamed_root] at none
      cases none
    · exact named _ (use.2 ▸ owned)
  | edge e =>
    have owned := within.2
    rw [use.2, p.sink_id] at owned
    exact named _ owned
  | note d => exact use.elim

namespace Manifest

abbrev place (m : Manifest) (pod : PodSpec) (c : Container) : Place :=
  .ofContainer m.file pod.volumes c

/-- A container of a pod runs a text in a shell. No two containers of the pod have one name, no name
has a colon, and a text among arguments is read as it stands. -/
structure RunsInline (m : Manifest) (resolve : Resolver) (pod : PodSpec) (c : Container)
    (text : String) : Prop where
  workload : m.pod? = some pod
  plain : m.PlainNames
  distinct : (pod.containers.map (·.name)).Nodup
  among : c ∈ pod.containers
  runs : c.RunsText text
  reads : ∀ label text, resolve (.inline label text) = .ok text

def inlineVisit (m : Manifest) (options : FlowOptions) (cluster : Option Cluster) (pod : PodSpec)
    (c : Container) (text : String) : Visit :=
  Place.launchVisit options ((m.place pod c).launchScope options cluster pod.volumes c)
    ⟨.inline c.name text, true⟩

abbrev inlineScope (m : Manifest) (options : FlowOptions) (cluster : Option Cluster)
    (resolve : Resolver) (pod : PodSpec) (c : Container) (text : String)
    (before : List Shell.Statement) : Scope :=
  (m.place pod c).scopeAfter options resolve (m.inlineVisit options cluster pod c text) before

namespace RunsInline

variable {m : Manifest} {options : FlowOptions} {cluster : Option Cluster} {resolve : Resolver}
  {pod : PodSpec} {c : Container} {text : String} (inline : m.RunsInline resolve pod c text)

include inline

private theorem mem_container_of_useOf {script : ScriptRef} {s : Shell.Statement} {st : GraphStep}
    (hst : st ∈ m.flowSteps options cluster resolve)
    (use : st.UseOf ((m.place pod c).statementId script s)) :
    st ∈ Place.container m.file options cluster resolve pod.volumes c := by
  unfold flowSteps at hst
  rw [inline.workload] at hst
  rcases List.mem_append.mp hst with opening | taken
  · rcases List.mem_cons.mp opening with rfl | note
    · cases use.1
    · obtain ⟨issue, -, rfl⟩ := List.mem_map.mp note
      exact use.elim
  · obtain ⟨d, hd, taken⟩ := List.mem_flatMap.mp taken
    have plain := inline.plain pod inline.workload
    have name : d.name = c.name :=
      name_eq_of_useOf (plain c inline.among) (Place.within_container (plain d hd) taken) use
    obtain rfl := List.inj_on_of_nodup_map inline.distinct hd inline.among name
    exact taken

variable {before after : List Shell.Statement} {s : Shell.Statement}
  (split : Shell.statements text = before ++ s :: after)

include split

private theorem mentions_of_useOf {st : GraphStep} (hst : st ∈ m.flowSteps options cluster resolve)
    (use : st.UseOf ((m.place pod c).statementId (.inline c.name text) s)) :
    options.maxReferenceDepth ≠ 0 ∧ ((m.place pod c).mentioned true
      (m.inlineScope options cluster resolve pod c text before) s).bindings ≠ [] := by
  have taken := inline.mem_container_of_useOf hst use
  obtain ⟨l, hl, walked⟩ := Place.exists_launch_of_use inline.runs.namesShell use.isUse taken
  rw [inline.runs.launches] at hl
  obtain rfl := List.mem_singleton.mp hl
  obtain ⟨w, other, earlier, t, later, visits, opens, again, used⟩ :=
    Place.exists_visit_of_use use.isUse walked
  obtain ⟨useThere, something⟩ := Place.useOf_of_mem_usesOn use.isUse used
  -- the id tells the label of the script, so it is the text itself that is visited
  have ids := use.unique useThere
  obtain rfl := visits.eq_of_key opens (Place.key_eq_of_statementId_eq ids).symm
  obtain rfl : text = other := Except.ok.inj ((inline.reads _ _).symm.trans opens.resolved)
  obtain ⟨rfl, rfl⟩ := Shell.before_eq_of_place split again (Place.place_eq_of_statementId_eq ids)
  exact ⟨opens.level, something⟩

private theorem usesOn_subset_flowSteps (level : options.maxReferenceDepth ≠ 0)
    (cluster : Option Cluster) :
    (m.place pod c).usesOn options (m.inlineVisit options cluster pod c text)
        (m.inlineScope options cluster resolve pod c text before) s ⊆
      m.flowSteps options cluster resolve := by
  have opens : (m.inlineVisit options cluster pod c text).Opens resolve text :=
    ⟨level, List.not_mem_nil, inline.reads _ _⟩
  have launched : (⟨.inline c.name text, true⟩ : Place.Launch) ∈ (m.place pod c).launches c := by
    rw [inline.runs.launches]
    exact List.mem_singleton_self _
  have reached : (m.place pod c).Reaches options resolve cluster pod.volumes c
      (m.inlineVisit options cluster pod c text) := ⟨_, launched, .itself _⟩
  exact List.Subset.trans (Place.usesOn_subset_statementOn _ s)
    (List.Subset.trans (Place.statementOn_subset_walk opens split)
      (List.Subset.trans reached.steps_subset
        (container_subset_flowSteps inline.workload inline.among options cluster resolve)))

/-- A statement of the text has a node if and only if it mentions something. -/
theorem hasStatement_iff : (m.flowGraph options cluster resolve).HasStatement
      ((m.place pod c).statementId (.inline c.name text) s) ↔
    options.maxReferenceDepth ≠ 0 ∧ ((m.place pod c).mentioned true
      (m.inlineScope options cluster resolve pod c text before) s).bindings ≠ [] := by
  constructor
  · rintro ⟨n, hn, kind, id⟩
    exact inline.mentions_of_useOf split (node_step_of_mem hn) ⟨kind, id⟩
  · rintro ⟨level, something⟩
    have step := inline.usesOn_subset_flowSteps split level cluster (Place.node_mem_usesOn something)
    obtain ⟨n, hn, id, label⟩ := (m.grounded_flowSteps options cluster resolve).exists_node
      (fun _ named => kindNamed_of_names inline.plain named) m.unitId step
    exact ⟨n, hn, NodeKind.eq_of_label label rfl, id⟩

theorem mentions_of_edge {e : Edge} (he : e ∈ (m.flowGraph options cluster resolve).edges)
    (target : e.target = s!"{(m.place pod c).statementId (.inline c.name text) s}:sink") :
    options.maxReferenceDepth ≠ 0 ∧ ((m.place pod c).mentioned true
      (m.inlineScope options cluster resolve pod c text before) s).bindings ≠ [] := by
  have typed : (m.flowGraph options cluster resolve).WellTyped :=
    (m.grounded_flowSteps options cluster resolve).wellTyped
      fun _ named => kindNamed_of_names inline.plain named
  obtain ⟨a, -, b, hb, -, id, joins⟩ := typed.joined e he
  have label := label_of_id inline.plain inline.workload inline.among
    (.statementSink (.inline c.name text) s.line s.index .stdout "") hb
    (id.trans (target.trans (Place.sink_id _ _ s)))
  have flows := Relation.eq_flowsTo_of_joins joins (NodeKind.isSink_of_label label)
  exact inline.mentions_of_useOf split (edge_step_of_mem he) ⟨flows, target⟩

theorem exists_sink (level : options.maxReferenceDepth ≠ 0) {pattern : SinkPattern}
    (sink : Place.sinkOf? options.sinks s = some pattern) :
    ∃ n ∈ (m.flowGraph options cluster resolve).nodes, n.kind.isSink = true ∧
      n.id = s!"{(m.place pod c).statementId (.inline c.name text) s}:sink" := by
  have step := inline.usesOn_subset_flowSteps split level cluster (Place.sink_mem_usesOn sink)
  obtain ⟨n, hn, id, label⟩ := (m.grounded_flowSteps options cluster resolve).exists_node
    (fun _ named => kindNamed_of_names inline.plain named) m.unitId step
  exact ⟨n, hn, NodeKind.isSink_of_label label, id⟩

end RunsInline

end Manifest

end SecretFlow

import SecretFlow.Proofs.ClosedParts
import SecretFlow.Proofs.MiningEffort
import SecretFlow.Proofs.TypedGraphs

set_option autoImplicit false
set_option relaxedAutoImplicit false

/-!
Containers do not interact. Ids tell the containers that nodes belong to, so of what others have
added the steps of a container meet only the root. The flow graph of a pod is therefore put
together from the graphs of its containers alone, and its leaks are theirs.
-/

namespace SecretFlow

open GraphStep (rootId)

/-- The name of the container that an id belongs to, if there is no colon in it. -/
def containerNamed (id : NodeId) : Option String :=
  match id.toList with
  | 'c' :: ':' :: rest => some (String.ofList (rest.takeWhile (· ≠ ':')))
  | _ => none

theorem containerNamed_root : containerNamed rootId = none := by
  decide

theorem Place.containerNamed_id (p : Place) (plain : ':' ∉ p.name.toList) (label : String) :
    containerNamed (p.id label) = some p.name := by
  unfold containerNamed
  rw [p.toList_id]
  simp only [takeWhile_colon plain, String.ofList_toList]

def Container.owns (c : Container) (id : NodeId) : Bool :=
  containerNamed id = some c.name

private theorem Container.not_owns_root (c : Container) : c.owns rootId = false := by
  rw [owns, containerNamed_root]
  rfl

private theorem Container.name_eq_of_owns {c d : Container} {id : NodeId} (first : c.owns id = true)
    (second : d.owns id = true) : c.name = d.name :=
  Option.some.inj ((of_decide_eq_true first).symm.trans (of_decide_eq_true second))

/-- An edge inside a set of ids, or one that declares a secret in it below the root. -/
def Edge.Within (S : NodeId → Bool) (e : Edge) : Prop :=
  (S e.source = true ∨ e.source = rootId ∧ e.relation = .declares) ∧ S e.target = true

/-- A step inside a set of ids. The root may be added again. -/
def GraphStep.Within (S : NodeId → Bool) : GraphStep → Prop
  | .node n => n.id = rootId ∨ S n.id = true
  | .edge e => e.Within S
  | .note _ => True

private theorem Grounded.within {S : NodeId → Bool} {steps : List GraphStep}
    (grounded : Grounded (fun n => S n.id = true) steps) {s : GraphStep} (hs : s ∈ steps) :
    s.Within S := by
  cases s with
  | node n =>
    cases grounded.made hs with
    | root id _ => exact .inl id
    | declaration named | carrier named | sink named | deadEnd named => exact .inr named
  | edge e =>
    obtain ⟨_, a, b, ha, hb, source, target, joins⟩ := grounded.linkedBy hs
    refine ⟨?_, ?_⟩
    · rw [← source]
      cases grounded.made ha with
      | root id kind =>
        rw [kind] at joins
        exact .inr ⟨id, Relation.joins_root joins⟩
      | declaration named | carrier named | sink named | deadEnd named => exact .inl named
    · rw [← target]
      cases grounded.made hb with
      | root _ kind =>
        rw [kind, Relation.not_joins_root] at joins
        cases joins
      | declaration named | carrier named | sink named | deadEnd named => exact named
  | note d => trivial

theorem Place.within_container {file : String} {options : FlowOptions} {cluster : Option Cluster}
    {resolve : Resolver} {volumes : List Volume} {c : Container} (plain : ':' ∉ c.name.toList)
    {s : GraphStep} (hs : s ∈ container file options cluster resolve volumes c) :
    s.Within c.owns := by
  have names : (Place.ofContainer file volumes c).MayName c volumes
      fun n => c.owns n.id = true := by
    intro kind label origin payload _
    exact decide_eq_true ((Place.ofContainer file volumes c).containerNamed_id plain label)
  have grounded := grounded_container names options cluster resolve
    (.root (n := ⟨rootId, .manifestRoot, none, .text ""⟩) rfl rfl)
  exact grounded.within (List.mem_append_right _ hs)

namespace Graph

def followedBy (g more : Graph) : Graph :=
  { g with
    nodes := g.nodes ++ more.nodes
    edges := g.edges ++ more.edges
    diagnostics := g.diagnostics ++ more.diagnostics }

@[simp] theorem contains_followedBy (g more : Graph) (id : NodeId) :
    (g.followedBy more).contains id = (g.contains id || more.contains id) := by
  simp [contains, followedBy]

structure Inside (S : NodeId → Bool) (g : Graph) : Prop where
  nodes : ∀ n ∈ g.nodes, S n.id = true
  edges : ∀ e ∈ g.edges, e.Within S

/-- The graph has a root, and nothing in a set of ids. -/
structure Apart (S : NodeId → Bool) (g : Graph) : Prop where
  root : g.contains rootId = true
  nodes : ∀ n ∈ g.nodes, S n.id = false
  edges : ∀ e ∈ g.edges, S e.target = false

variable {S : NodeId → Bool}

private theorem Apart.not_contains {g : Graph} (apart : g.Apart S) {id : NodeId}
    (own : S id = true) : g.contains id = false := by
  rw [← Bool.not_eq_true, contains_iff]
  rintro ⟨n, hn, rfl⟩
  rw [apart.nodes n hn] at own
  cases own

private theorem Apart.followedBy {g more : Graph} {T : NodeId → Bool} (apart : g.Apart S)
    (inside : more.Inside T) (disjoint : ∀ id, T id = true → S id = false) :
    (g.followedBy more).Apart S where
  root := by rw [contains_followedBy, apart.root, Bool.true_or]
  nodes := by
    intro n hn
    rcases List.mem_append.mp hn with old | new
    · exact apart.nodes n old
    · exact disjoint _ (inside.nodes n new)
  edges := by
    intro e he
    rcases List.mem_append.mp he with old | new
    · exact apart.edges e old
    · exact disjoint _ (inside.edges e new).2

private theorem step_edge_followedBy {g more : Graph} (apart : g.Apart S) {e : Edge}
    (within : e.Within S) : (g.followedBy more).step (.edge e) = g.followedBy
      (if (e.source = rootId ∨ more.contains e.source) ∧ more.contains e.target ∧ e ∉ more.edges
        then { more with edges := more.edges ++ [e] } else more) := by
  have source : (g.followedBy more).contains e.source = true ↔
      e.source = rootId ∨ more.contains e.source := by
    rw [contains_followedBy, Bool.or_eq_true]
    constructor
    · rintro (old | new)
      · rcases within.1 with own | ⟨root, _⟩
        · rw [apart.not_contains own] at old
          cases old
        · exact .inl root
      · exact .inr new
    · rintro (root | new)
      · exact .inl (root ▸ apart.root)
      · exact .inr new
  have target : (g.followedBy more).contains e.target = more.contains e.target := by
    rw [contains_followedBy, apart.not_contains within.2, Bool.false_or]
  have once : e ∈ (g.followedBy more).edges ↔ e ∈ more.edges := by
    refine ⟨fun he => (List.mem_append.mp he).resolve_left ?_, List.mem_append_right _⟩
    intro old
    have other := apart.edges e old
    rw [within.2] at other
    cases other
  rw [step_edge]
  simp only [source, target, once]
  split
  · simp only [followedBy, List.append_assoc]
  · rfl

private theorem exists_step_followedBy {s : GraphStep} (within : s.Within S) {more : Graph}
    (inside : more.Inside S) : ∃ next : Graph, next.Inside S ∧
      ∀ g : Graph, g.Apart S → (g.followedBy more).step s = g.followedBy next := by
  cases s with
  | node n =>
    rcases within with root | own
    · refine ⟨more, inside, ?_⟩
      intro g apart
      simp only [step, addNode, contains_followedBy, root, apart.root, Bool.true_or, if_true]
    · refine ⟨more.addNode n, ⟨?_, by simpa using inside.edges⟩, ?_⟩
      · intro a ha
        rw [addNode_nodes] at ha
        split at ha
        · exact inside.nodes a ha
        · rcases List.mem_append.mp ha with old | new
          · exact inside.nodes a old
          · rwa [List.mem_singleton.mp new]
      · intro g apart
        simp only [step, addNode, contains_followedBy, apart.not_contains own, Bool.false_or]
        split
        · rfl
        · simp only [followedBy, List.append_assoc]
  | edge e =>
    refine ⟨_, ?_, fun g apart => step_edge_followedBy apart within⟩
    split
    · refine ⟨inside.nodes, ?_⟩
      intro d hd
      rcases List.mem_append.mp hd with old | new
      · exact inside.edges d old
      · rwa [List.mem_singleton.mp new]
    · exact inside
  | note d =>
    refine ⟨more.addDiagnostic d, ⟨inside.nodes, inside.edges⟩, ?_⟩
    intro g _
    simp only [step, addDiagnostic, followedBy, List.append_assoc]

private theorem exists_run_followedBy {steps : List GraphStep} (within : ∀ s ∈ steps, s.Within S)
    (more : Graph) (inside : more.Inside S) : ∃ next : Graph, next.Inside S ∧
      ∀ g : Graph, g.Apart S → (g.followedBy more).run steps = g.followedBy next := by
  induction steps generalizing more with
  | nil => exact ⟨more, inside, fun _ _ => rfl⟩
  | cons s steps ih =>
    obtain ⟨next, hnext, step⟩ := exists_step_followedBy (within s List.mem_cons_self) inside
    obtain ⟨last, hlast, run⟩ := ih (fun t ht => within t (List.mem_cons_of_mem _ ht)) next hnext
    refine ⟨last, hlast, ?_⟩
    intro g apart
    rw [run_cons, step g apart, run g apart]

def added (base : Graph) (steps : List GraphStep) : Graph :=
  let g := base.run steps
  { g with
    nodes := g.nodes.drop base.nodes.length
    edges := g.edges.drop base.edges.length
    diagnostics := g.diagnostics.drop base.diagnostics.length }

/-- Steps inside a set of ids add inside it, and the same to all graphs that are apart. -/
private theorem run_eq_followedBy {base : Graph} (hbase : base.Apart S) {steps : List GraphStep}
    (within : ∀ s ∈ steps, s.Within S) : (base.added steps).Inside S ∧
      ∀ g : Graph, g.Apart S → g.run steps = g.followedBy (base.added steps) := by
  obtain ⟨next, inside, run⟩ :=
    exists_run_followedBy within { unit := "" } ⟨by simp, by simp⟩
  have start (g : Graph) : g.followedBy { unit := "" } = g := by
    simp [followedBy]
  simp only [start] at run
  have same : base.added steps = { next with unit := base.unit } := by
    simp [added, run base hbase, followedBy]
  rw [same]
  exact ⟨⟨inside.nodes, inside.edges⟩, run⟩

private theorem run_flatMap {α : Type} {S : α → NodeId → Bool} {steps : α → List GraphStep}
    {base : Graph} {items : List α} (hbase : ∀ a ∈ items, base.Apart (S a))
    (within : ∀ a ∈ items, ∀ s ∈ steps a, s.Within (S a))
    (disjoint : items.Pairwise fun a b => ∀ id, S a id = true → S b id = false) {g : Graph}
    (apart : ∀ a ∈ items, g.Apart (S a)) : g.run (items.flatMap steps) = { g with
      nodes := g.nodes ++ items.flatMap fun a => (base.added (steps a)).nodes
      edges := g.edges ++ items.flatMap fun a => (base.added (steps a)).edges
      diagnostics := g.diagnostics ++ items.flatMap fun a =>
        (base.added (steps a)).diagnostics } := by
  induction items generalizing g with
  | nil => simp
  | cons a rest ih =>
    rw [List.forall_mem_cons] at hbase within apart
    rw [List.pairwise_cons] at disjoint
    obtain ⟨inside, run⟩ := run_eq_followedBy hbase.1 within.1
    -- what the first group adds leaves the graph apart from the sets of the others
    rw [List.flatMap_cons, run_append, run g apart.1, ih hbase.2 within.2 disjoint.2
      fun b hb => (apart.2 b hb).followedBy inside (disjoint.1 b hb)]
    simp only [followedBy, List.flatMap_cons, List.append_assoc]

private theorem run_notes (g : Graph) (notes : List Diagnostic) :
    g.run (notes.map .note) = { g with diagnostics := g.diagnostics ++ notes } := by
  induction notes generalizing g with
  | nil => simp
  | cons d rest ih =>
    rw [List.map_cons, run_cons, ih]
    simp only [step, addDiagnostic, List.append_assoc, List.singleton_append]

def inner (g : Graph) : List Node :=
  g.nodes.filter (·.kind ≠ .manifestRoot)

/-- All of a graph but its root and its first diagnostics is inside a set of ids. -/
structure RootedIn (S : NodeId → Bool) (root : Node) (notes : List Diagnostic) (g : Graph) :
    Prop where
  nodes : g.nodes = root :: g.inner
  diagnostics : notes <+: g.diagnostics
  own : ∀ n ∈ g.inner, S n.id = true
  edges : ∀ e ∈ g.edges, e.Within S

private theorem RootedIn.exists_inner {root : Node} {notes : List Diagnostic} {g : Graph}
    (rooted : g.RootedIn S root notes) (outside : S root.id = false) {id : NodeId}
    (own : S id = true) (has : g.contains id) : ∃ n ∈ g.inner, n.id = id := by
  obtain ⟨n, hn, rfl⟩ := contains_iff.mp has
  rw [rooted.nodes] at hn
  rcases List.mem_cons.mp hn with rfl | hn
  · rw [outside] at own
    cases own
  · exact ⟨n, hn, rfl⟩

/-- A graph put together from parts that share a root and their first diagnostics, and no more. -/
structure ComposedOf (root : Node) (notes : List Diagnostic) (parts : List Graph) (g : Graph) :
    Prop where
  /-- The parts share the root and the first diagnostics. -/
  opening : ∀ part ∈ parts, part.nodes = root :: part.inner ∧ notes <+: part.diagnostics
  nodes : g.nodes = root :: parts.flatMap (·.inner)
  edges : g.edges = parts.flatMap (·.edges)
  diagnostics : g.diagnostics = notes ++ parts.flatMap (·.diagnostics.drop notes.length)
  /-- No two parts share another node. -/
  apart : parts.Pairwise fun a b => ∀ m ∈ a.inner, ∀ n ∈ b.inner, m.id ≠ n.id
  /-- Edges that do not declare a secret below the root stay inside a part. -/
  within : ∀ e ∈ g.edges, e.relation = .declares ∧ e.source = root.id ∨
    ∃ part ∈ parts, (∃ a ∈ part.inner, a.id = e.source) ∧ ∃ b ∈ part.inner, b.id = e.target

end Graph

namespace Manifest

def root (m : Manifest) : Node :=
  ⟨rootId, .manifestRoot, some (.manifest m.file "metadata"), .text s!"{m.kind}/{m.name}"⟩

def notes (m : Manifest) : List Diagnostic :=
  m.issues.map fun issue => ⟨.malformedField, issue.message, some (.manifest m.file issue.field)⟩

def opening (m : Manifest) : Graph :=
  { unit := m.unitId, nodes := [m.root], diagnostics := m.notes }

def only (m : Manifest) (c : Container) : Manifest :=
  { m with body := match m.body with
    | .workload pod => .workload { pod with containers := [c] }
    | body => body }

private theorem run_openingSteps (m : Manifest) :
    ({ unit := m.unitId } : Graph).run m.openingSteps = m.opening := by
  have steps : m.openingSteps = .node m.root :: m.notes.map .note := by
    simp [openingSteps, root, notes]
  rw [steps, Graph.run_cons, Graph.run_notes]
  rfl

private theorem apart_opening (m : Manifest) (c : Container) : m.opening.Apart c.owns where
  root := Graph.contains_iff.mpr ⟨m.root, List.mem_cons_self, rfl⟩
  nodes := by
    intro n hn
    rw [List.mem_singleton.mp hn]
    exact c.not_owns_root
  edges := by simp [opening]

section Parts

variable {m : Manifest} {pod : PodSpec} (hpod : m.pod? = some pod) (options : FlowOptions)
  (cluster : Option Cluster) (resolve : Resolver)

private theorem pod?_only (hpod : m.pod? = some pod) (c : Container) :
    (m.only c).pod? = some { pod with containers := [c] } := by
  unfold pod? at hpod
  split at hpod
  · rename_i body
    obtain rfl := Option.some.inj hpod
    simp [pod?, only, body]
  · cases hpod

include hpod

private theorem flowGraph_eq_run : m.flowGraph options cluster resolve = m.opening.run
    (pod.containers.flatMap (Place.container m.file options cluster resolve pod.volumes)) := by
  unfold flowGraph flowSteps
  rw [Graph.run_append, run_openingSteps, hpod]

private theorem flowGraph_only (c : Container) : (m.only c).flowGraph options cluster resolve =
    m.opening.run (Place.container m.file options cluster resolve pod.volumes c) := by
  rw [flowGraph_eq_run (pod?_only hpod c), List.flatMap_singleton]
  rfl

private theorem flowGraph_only_eq_followedBy {c : Container} (plain : ':' ∉ c.name.toList) :
    let own := m.opening.added (Place.container m.file options cluster resolve pod.volumes c)
    own.Inside c.owns ∧ (m.only c).flowGraph options cluster resolve = m.opening.followedBy own := by
  obtain ⟨inside, run⟩ := Graph.run_eq_followedBy (m.apart_opening c)
    fun s hs => Place.within_container plain hs
  exact ⟨inside, (flowGraph_only hpod options cluster resolve c).trans
    (run m.opening (m.apart_opening c))⟩

private theorem inner_only {c : Container} (plain : ':' ∉ c.name.toList) :
    ((m.only c).flowGraph options cluster resolve).inner = (m.opening.added
      (Place.container m.file options cluster resolve pod.volumes c)).nodes := by
  obtain ⟨inside, eq⟩ := flowGraph_only_eq_followedBy hpod options cluster resolve plain
  have grounded := (m.only c).grounded_flowSteps options cluster resolve
  have below : ∀ n ∈ (m.opening.added
      (Place.container m.file options cluster resolve pod.volumes c)).nodes,
      n.kind ≠ .manifestRoot := by
    intro n hn kind
    have own := inside.nodes n hn
    have all : n ∈ ((m.only c).flowGraph options cluster resolve).nodes := by
      rw [eq]
      exact List.mem_append_right _ hn
    rw [grounded.id_of_root all kind, c.not_owns_root] at own
    cases own
  have kept := List.filter_eq_self.mpr fun n hn => decide_eq_true (below n hn)
  rw [eq, Graph.inner, Graph.followedBy, List.filter_append, kept]
  rfl

private theorem rootedIn_only {c : Container} (plain : ':' ∉ c.name.toList) :
    ((m.only c).flowGraph options cluster resolve).RootedIn c.owns m.root m.notes := by
  obtain ⟨inside, eq⟩ := flowGraph_only_eq_followedBy hpod options cluster resolve plain
  have inner := inner_only hpod options cluster resolve plain
  refine ⟨?_, ?_, ?_, ?_⟩
  · rw [inner, eq]
    rfl
  · rw [eq]
    exact List.prefix_append _ _
  · rw [inner]
    exact inside.nodes
  · rw [eq]
    exact inside.edges

variable (plain : m.PlainNames) (distinct : (pod.containers.map (·.name)).Nodup)

include plain distinct

private theorem flowGraph_eq_parts :
    let part c := (m.only c).flowGraph options cluster resolve
    m.flowGraph options cluster resolve = { m.opening with
      nodes := m.root :: pod.containers.flatMap fun c => (part c).inner
      edges := pod.containers.flatMap fun c => (part c).edges
      diagnostics := m.notes ++ pod.containers.flatMap fun c =>
        (part c).diagnostics.drop m.notes.length } := by
  intro part
  have disjoint : pod.containers.Pairwise
      fun c d => ∀ id, c.owns id = true → d.owns id = false := by
    refine (List.pairwise_map.mp distinct).imp ?_
    intro c d differ id first
    rw [← Bool.not_eq_true]
    exact fun second => differ (Container.name_eq_of_owns first second)
  have nodes := List.flatMap_congr fun c hc =>
    inner_only hpod options cluster resolve (plain pod hpod c hc)
  rw [flowGraph_eq_run hpod, Graph.run_flatMap (fun c _ => m.apart_opening c)
    (fun c hc s hs => Place.within_container (plain pod hpod c hc) hs) disjoint
    fun c _ => m.apart_opening c]
  dsimp only [part]
  rw [nodes]
  simp only [flowGraph_only hpod]
  rfl

private theorem closedPart_only {c : Container} (hc : c ∈ pod.containers) :
    ((m.only c).flowGraph options cluster resolve).ClosedPart c.owns
      (m.flowGraph options cluster resolve) := by
  have rooted (d : Container) (hd : d ∈ pod.containers) :=
    rootedIn_only hpod options cluster resolve (plain pod hpod d hd)
  have whole := flowGraph_eq_parts hpod options cluster resolve plain distinct
  -- only the container itself owns an id that it owns
  have unique {d : Container} (hd : d ∈ pod.containers) {id : NodeId} (own : c.owns id = true)
      (other : d.owns id = true) : d = c :=
    List.inj_on_of_nodup_map distinct hd hc (Container.name_eq_of_owns other own)
  have below {n : Node} {all : List Node} (hn : n ∈ m.root :: all) (own : c.owns n.id = true) :
      n ∈ all := by
    refine (List.mem_cons.mp hn).resolve_left ?_
    rintro rfl
    rw [show m.root.id = rootId from rfl, c.not_owns_root] at own
    cases own
  refine ⟨?_, ⟨?_, ?_⟩, ⟨?_, ?_⟩, ?_⟩
  · rw [flowGraph_only hpod, flowGraph_eq_run hpod, Graph.run_unit, Graph.run_unit]
  · intro n hn own
    rw [(rooted c hc).nodes] at hn
    rw [whole]
    exact List.mem_cons_of_mem _ (List.mem_flatMap.mpr ⟨c, hc, below hn own⟩)
  · intro e he _ _
    rw [whole]
    exact ⟨List.mem_flatMap.mpr ⟨c, hc, he⟩, ((rooted c hc).edges e he).2⟩
  · intro n hn own
    rw [whole] at hn
    obtain ⟨d, hd, hn⟩ := List.mem_flatMap.mp (below hn own)
    obtain rfl := unique hd own ((rooted d hd).own n hn)
    exact List.mem_of_mem_filter hn
  · intro e he _ own
    rw [whole] at he
    obtain ⟨d, hd, he⟩ := List.mem_flatMap.mp he
    have within := (rooted d hd).edges e he
    rcases within.1 with source | ⟨root, _⟩
    · obtain rfl := unique hd own source
      exact ⟨he, within.2⟩
    · rw [root, c.not_owns_root] at own
      cases own
  · intro n hn kind
    refine (rooted c hc).own n (List.mem_filter.mpr ⟨hn, ?_⟩)
    rw [kind]
    rfl

private theorem composedOf_only : (m.flowGraph options cluster resolve).ComposedOf m.root m.notes
    (pod.containers.map fun c => (m.only c).flowGraph options cluster resolve) := by
  have rooted (d : Container) (hd : d ∈ pod.containers) :=
    rootedIn_only hpod options cluster resolve (plain pod hpod d hd)
  have whole := flowGraph_eq_parts hpod options cluster resolve plain distinct
  refine ⟨?_, ?_, ?_, ?_, ?_, ?_⟩
  · rintro _ hpart
    obtain ⟨c, hc, rfl⟩ := List.mem_map.mp hpart
    exact ⟨(rooted c hc).nodes, (rooted c hc).diagnostics⟩
  · rw [whole, List.flatMap_map]
  · rw [whole, List.flatMap_map]
  · rw [whole, List.flatMap_map]
  · rw [List.pairwise_map]
    refine (List.pairwise_map.mp distinct).imp_of_mem ?_
    intro c d hc hd differ a ha b hb same
    have first := (rooted c hc).own a ha
    rw [same] at first
    exact differ (Container.name_eq_of_owns first ((rooted d hd).own b hb))
  · intro e he
    rw [whole] at he
    obtain ⟨c, hc, he⟩ := List.mem_flatMap.mp he
    obtain ⟨source | ⟨root, declares⟩, target⟩ := (rooted c hc).edges e he
    · have ends := (wellFormed_graphOf _ _).closed e he
      exact .inr ⟨_, List.mem_map_of_mem hc,
        (rooted c hc).exists_inner c.not_owns_root source ends.1,
        (rooted c hc).exists_inner c.not_owns_root target ends.2⟩
    · exact .inl ⟨declares, root⟩

private theorem exists_owner {limits : MiningLimits} {f : Finding}
    (hf : f ∈ ((m.flowGraph options cluster resolve).mine limits).findings) :
    ∃ c ∈ pod.containers, f.path.head?.any c.owns = true := by
  have wf : (m.flowGraph options cluster resolve).WellFormed := wellFormed_graphOf _ _
  obtain ⟨n, hn, declares, head⟩ := (Graph.tells_of_mem_mine wf hf).exists_source
  rw [flowGraph_eq_parts hpod options cluster resolve plain distinct] at hn
  rcases List.mem_cons.mp hn with rfl | hn
  · cases declares
  · obtain ⟨c, hc, inner⟩ := List.mem_flatMap.mp hn
    refine ⟨c, hc, ?_⟩
    rw [head]
    exact (rootedIn_only hpod options cluster resolve (plain pod hpod c hc)).own n inner

end Parts

/-- Containers with different names, none with a colon in it, do not interact: the flow graph is
put together from those of the manifest reduced to each container, and if no limit stops mining
then the leaks are those of the containers. -/
theorem containers_separate (m : Manifest) (options : FlowOptions) (cluster : Option Cluster)
    (resolve : Resolver) {pod : PodSpec} (hpod : m.pod? = some pod) (plain : m.PlainNames)
    (distinct : (pod.containers.map (·.name)).Nodup) :
    let g := m.flowGraph options cluster resolve
    let parts := pod.containers.map fun c => (m.only c).flowGraph options cluster resolve
    g.ComposedOf m.root m.notes parts ∧
      ∀ limits, (g.mine limits).truncated = none →
        (∀ part ∈ parts, (part.mine limits).truncated = none) ∧
        ∀ f, f ∈ (g.mine limits).findings ↔ ∃ part ∈ parts, f ∈ (part.mine limits).findings := by
  intro g parts
  refine ⟨composedOf_only hpod options cluster resolve plain distinct, ?_⟩
  intro limits untouched
  have closed (c : Container) (hc : c ∈ pod.containers) :=
    closedPart_only hpod options cluster resolve plain distinct hc
  have built (m : Manifest) : (m.flowGraph options cluster resolve).Built := Graph.built_run _ _
  refine ⟨?_, ?_⟩
  · rintro _ hpart
    obtain ⟨c, hc, rfl⟩ := List.mem_map.mp hpart
    exact (closed c hc).truncated_mine (built _) (built _) untouched
  · intro f
    constructor
    · intro hf
      obtain ⟨c, hc, own⟩ := exists_owner hpod options cluster resolve plain distinct hf
      exact ⟨_, List.mem_map_of_mem hc,
        ((closed c hc).mem_mine_iff (built _) (built _) untouched).mpr ⟨hf, own⟩⟩
    · rintro ⟨_, hpart, hf⟩
      obtain ⟨c, hc, rfl⟩ := List.mem_map.mp hpart
      exact (((closed c hc).mem_mine_iff (built _) (built _) untouched).mp hf).1

/-- Two containers that print the same secret: each does so with nodes of its own. -/
theorem containers_separate_pair :
    let token : EnvVariable := ⟨"TOKEN", .secretKey "api" "token", "env[0]"⟩
    let app := Container.shell [token] "echo $TOKEN"
    let side := { app with name := "side" }
    let m := podOf [app, side]
    let g := m.flowGraph .echoing none (.ofTable [])
    let parts := [app, side].map fun c => (m.only c).flowGraph .echoing none (.ofTable [])
    m.PlainNames ∧ ["app", "side"].Nodup ∧ g.ComposedOf m.root m.notes parts ∧
      (g.mine).truncated = none ∧ (∀ part ∈ parts, (part.mine).truncated = none) ∧
      (∀ f, f ∈ (g.mine).findings ↔ ∃ part ∈ parts, f ∈ (part.mine).findings) ∧
      parts.map (·.inner.map (·.id)) =
        [["c:app:env:TOKEN", "c:app:inline:app:1.0", "c:app:inline:app:1.0:sink"],
          ["c:side:env:TOKEN", "c:side:inline:side:1.0", "c:side:inline:side:1.0:sink"]] := by
  intro token app side m g parts
  have plain : m.PlainNames := by
    rintro pod ⟨⟩ c hc
    rcases List.mem_cons.mp hc with rfl | hc
    · exact (by decide : ':' ∉ "app".toList)
    · obtain rfl := List.mem_singleton.mp hc
      exact (by decide : ':' ∉ "side".toList)
  have distinct : ["app", "side"].Nodup := by decide
  have whole : (g.mine).truncated = none :=
    Graph.truncated_mine_of_effort (wellFormed_graphOf _ _) (by decide +kernel) (by decide +kernel)
  obtain ⟨composed, mined⟩ := containers_separate m .echoing none (.ofTable []) rfl plain distinct
  obtain ⟨wholes, leaks⟩ := mined {} whole
  exact ⟨plain, distinct, composed, whole, wholes, leaks, by decide +kernel⟩

end Manifest

end SecretFlow

import Mathlib.Data.List.TakeWhile
import SecretFlow.Proofs.DirectLeaks

set_option autoImplicit false
set_option relaxedAutoImplicit false

/-!
No secret is lost at a script that cannot be inspected. Such a script gets a dead end, and whatever
is in scope when the container launches it is linked to the dead end. Scopes never forget a secret
whose keys are not known, nor a mounted path, and they keep the variables of the environment; so
every secret that child processes see reaches the dead end in one edge or, from a mounted volume, in
two.
-/

namespace SecretFlow

namespace Scope

private theorem exists_mem_dropRepeats {b : Binding} {all : List Binding} (hb : b ∈ all) :
    ∃ a ∈ dropRepeats all, a.node = b.node := by
  induction all with
  | nil => cases hb
  | cons first rest ih =>
    simp only [dropRepeats]
    split
    · rename_i none
      rw [none] at ih
      rcases List.mem_cons.mp hb with rfl | later
      · exact ⟨b, List.mem_singleton_self b, rfl⟩
      · obtain ⟨a, ha, _⟩ := ih later
        cases ha
    · rename_i next others kept
      rw [kept] at ih
      split
      · rename_i same
        rcases List.mem_cons.mp hb with rfl | later
        · exact ⟨b, List.mem_cons_self, rfl⟩
        · obtain ⟨a, ha, node⟩ := ih later
          rcases List.mem_cons.mp ha with rfl | ha
          · exact ⟨first, List.mem_cons_self, same.trans node⟩
          · exact ⟨a, List.mem_cons_of_mem _ ha, node⟩
      · rcases List.mem_cons.mp hb with rfl | later
        · exact ⟨b, List.mem_cons_self, rfl⟩
        · obtain ⟨a, ha, node⟩ := ih later
          exact ⟨a, List.mem_cons_of_mem _ ha, node⟩

private theorem exists_mem_tainted {s : Scope} {b : Binding} (hb : b ∈ s.bindings) :
    ∃ a ∈ s.tainted, a.node = b.node :=
  exists_mem_dropRepeats (List.mem_mergeSort.mpr hb)

private theorem mem_bindings_of_unknown {s : Scope} {u : String × NodeId} (hu : u ∈ s.unknown) :
    .toDeclaration u.2 ∈ s.exported.bindings := by
  simp only [bindings, List.mem_append, List.mem_map]
  exact .inl (.inr ⟨u, hu, rfl⟩)

private theorem mem_bindings_of_mounts {s : Scope} {m : String × NodeId} (hm : m ∈ s.mounts) :
    .toReference m.2 ∈ s.exported.bindings := by
  simp only [bindings, List.mem_append, List.mem_map]
  exact .inr ⟨m, hm, rfl⟩

/-- The second scope knows all secrets without known keys and all mounted paths of the first. -/
structure Remembers (s t : Scope) : Prop where
  unknown : s.unknown ⊆ t.unknown
  mounts : s.mounts ⊆ t.mounts

private theorem Remembers.refl (s : Scope) : s.Remembers s :=
  ⟨List.Subset.refl _, List.Subset.refl _⟩

private theorem Remembers.trans {s t u : Scope} (first : s.Remembers t) (second : t.Remembers u) :
    s.Remembers u :=
  ⟨List.Subset.trans first.unknown second.unknown, List.Subset.trans first.mounts second.mounts⟩

private theorem Remembers.bind {s t : Scope} (kept : s.Remembers t) (name : String) (b : Binding) :
    s.Remembers (t.bind name b) :=
  ⟨kept.unknown, kept.mounts⟩

private theorem Remembers.clear {s t : Scope} (kept : s.Remembers t) (name : String) :
    s.Remembers (t.clear name) :=
  ⟨kept.unknown, kept.mounts⟩

end Scope

private theorem Walked.exists_remembered {α : Type} {f : Scope → α → Walked}
    (remembers : ∀ (scope : Scope) part, scope.Remembers (f scope part).scope) {parts : List α}
    {part : α} (hpart : part ∈ parts) (w : Walked) :
    ∃ inner, (f inner part).scope.Remembers (parts.foldl (andThen f) w).scope := by
  obtain ⟨before, after, rfl⟩ := List.append_of_mem hpart
  rw [List.foldl_append, List.foldl_cons]
  refine ⟨(before.foldl (andThen f) w).scope, foldl_keeps (P := Scope.Remembers _) ?_ (.refl _)⟩
  intro later _ scope here
  exact here.trans (remembers scope later)

private theorem Walked.remembers_foldl {α : Type} {f : Scope → α → Walked}
    (remembers : ∀ (scope : Scope) part, scope.Remembers (f scope part).scope) (parts : List α)
    (w : Walked) : w.scope.Remembers (parts.foldl (andThen f) w).scope :=
  foldl_keeps (P := w.scope.Remembers) (fun part _ scope here => here.trans (remembers scope part))
    (.refl _)

namespace Place

variable (p : Place)

private theorem lookup_remembers (scope : Scope) (name : String) :
    scope.Remembers (p.lookup scope name).scope := by
  unfold lookup
  split
  · exact .refl _
  · split
    · exact .refl _
    · dsimp only
      split
      · exact .refl _
      · exact (Scope.Remembers.refl scope).bind name _

private theorem lookupAll_remembers (scope : Scope) (names : List String) :
    scope.Remembers (p.lookupAll scope names).scope :=
  List.foldlRecOn (motive := fun found : Found => scope.Remembers found.scope) _ _ (.refl _)
    fun found here name _ => here.trans (p.lookup_remembers found.scope name)

private theorem envImport_remembers (cluster : Option Cluster) (scope : Scope) (e : EnvImport) :
    scope.Remembers (p.envImport cluster scope e).scope := by
  unfold envImport
  split
  · dsimp only
    split
    · exact List.foldlRecOn (motive := scope.Remembers) _ _ (.refl _)
        fun _ here name _ => here.bind name _
    · exact ⟨List.subset_append_left _ _, List.Subset.refl _⟩
  · exact List.foldlRecOn (motive := scope.Remembers) _ _ (.refl _) fun _ here key _ => here.clear _

private theorem envVariable_remembers (options : FlowOptions) (scope : Scope) (e : EnvVariable) :
    scope.Remembers (p.envVariable options scope e).scope := by
  unfold envVariable
  dsimp only
  split
  · exact (Scope.Remembers.refl scope).bind _ _
  · split
    · exact (p.lookupAll_remembers scope _).clear _
    · exact (p.lookupAll_remembers scope _).bind _ _
  · exact (Scope.Remembers.refl scope).clear _

private theorem volumeMount_remembers (volumes : List Volume) (scope : Scope) (m : VolumeMount) :
    scope.Remembers (p.volumeMount volumes scope m).scope := by
  unfold volumeMount
  split
  · dsimp only
    split
    · exact .refl _
    · exact ⟨List.Subset.refl _, List.subset_append_left _ _⟩
  · exact .refl _

private theorem arguments_remembers (scope : Scope) (c : Container) :
    scope.Remembers (p.arguments scope c).1.scope := by
  refine List.foldlRecOn (motive := fun w : Walked × List NodeId => scope.Remembers w.1.scope)
    _ _ (.refl _) ?_
  intro w here arg _
  unfold argument
  dsimp only
  split <;> exact here.trans (p.lookupAll_remembers _ _)

def launchScope (options : FlowOptions) (cluster : Option Cluster) (volumes : List Volume)
    (c : Container) : Scope :=
  let imported := c.envFrom.foldl (Walked.andThen (p.envImport cluster)) { scope := {} }
  let set := c.env.foldl (Walked.andThen (p.envVariable options)) imported
  let mounted := c.mounts.foldl (Walked.andThen (p.volumeMount volumes)) set
  (p.arguments mounted.scope c).1.scope

variable {p} {options : FlowOptions} {cluster : Option Cluster} {volumes : List Volume}
  {c : Container}

private theorem set_mem_launchScope {e : EnvVariable} (takes : c.TakesSecret e) :
    .toDeclaration (p.id s!"env:{e.name}") ∈
      (p.launchScope options cluster volumes c).exported.bindings := by
  have mounted := takes.get?_mounted p options volumes
    (c.envFrom.foldl (Walked.andThen (p.envImport cluster)) { scope := {} })
  exact Scope.mem_bindings_of_get? (Scope.get?_exported (arguments_keeps mounted c) rfl)

private theorem imported_mem_launchScope {e : EnvImport} (he : e ∈ c.envFrom) {secret : String}
    (source : e.source = .secret secret) (absent : cluster.bind (·.secretKeys? secret) = none) :
    .toDeclaration (p.id s!"envFrom:{secret}") ∈
      (p.launchScope options cluster volumes c).exported.bindings := by
  obtain ⟨inner, imported⟩ :=
    Walked.exists_remembered (p.envImport_remembers cluster) he { scope := {} }
  have here : (e.start, p.id s!"envFrom:{secret}") ∈ (p.envImport cluster inner e).scope.unknown := by
    simp [envImport, source, absent]
  have set := imported.trans (Walked.remembers_foldl (p.envVariable_remembers options) c.env _)
  have mounted := set.trans (Walked.remembers_foldl (p.volumeMount_remembers volumes) c.mounts _)
  exact Scope.mem_bindings_of_unknown ((mounted.trans (p.arguments_remembers _ c)).unknown here)

private theorem mounted_mem_launchScope {m : VolumeMount} (hm : m ∈ c.mounts) {secret : String}
    {items : List KeyPath}
    (source : (volume? volumes m.name).map Volume.source = some (.secret secret items))
    (named : ∃ letter ∈ m.mountPath.toList, letter ≠ '/') :
    .toReference (p.id s!"mount:{m.name}") ∈
      (p.launchScope options cluster volumes c).exported.bindings := by
  have path : Text.dropRepeatedEnd '/' m.mountPath.toList ≠ [] := by
    obtain ⟨letter, hletter, other⟩ := named
    intro none
    have slashes := List.dropWhile_eq_nil_iff.mp (List.reverse_eq_nil_iff.mp none)
    exact other (by simpa using slashes letter (List.mem_reverse.mpr hletter))
  obtain ⟨inner, mounted⟩ := Walked.exists_remembered (p.volumeMount_remembers volumes) hm
    (c.env.foldl (Walked.andThen (p.envVariable options))
      (c.envFrom.foldl (Walked.andThen (p.envImport cluster)) { scope := {} }))
  have here : (String.ofList (Text.dropRepeatedEnd '/' m.mountPath.toList),
      p.id s!"mount:{m.name}") ∈ (p.volumeMount volumes inner m).scope.mounts := by
    simp [volumeMount, source, path]
  exact Scope.mem_bindings_of_mounts ((mounted.trans (p.arguments_remembers _ c)).mounts here)

def stepsToLaunch (p : Place) (options : FlowOptions) (cluster : Option Cluster)
    (volumes : List Volume) (c : Container) : List GraphStep :=
  let imported := c.envFrom.foldl (Walked.andThen (p.envImport cluster)) { scope := {} }
  let set := c.env.foldl (Walked.andThen (p.envVariable options)) imported
  let mounted := c.mounts.foldl (Walked.andThen (p.volumeMount volumes)) set
  let w := p.arguments mounted.scope c
  let sink := match c.argv with
    | [] => []
    | first :: _ =>
        if Shell.namesShell first then []
        else p.argumentSink options.sinks (" ".intercalate ((plainArguments c).map (·.1))) w.2
  mounted.steps ++ (w.1.steps ++ sink)

private theorem container_eq_append (file : String) (options : FlowOptions)
    (cluster : Option Cluster) (resolve : Resolver) (volumes : List Volume) (c : Container) :
    let p := ofContainer file volumes c
    container file options cluster resolve volumes c =
      p.stepsToLaunch options cluster volumes c ++ (p.launches c).flatMap
        (p.launch options resolve (p.launchScope options cluster volumes c)) := by
  intro p
  unfold container argv stepsToLaunch launchScope
  cases words : c.argv with
  | nil =>
    have idle : (ofContainer file volumes c).launches c = [] := by
      simp [launches, words, inlineIndex?, launched]
    simp [p, idle, arguments, plainArguments, words]
  | cons first rest =>
    simp only [List.append_assoc]
    rfl

theorem launch_subset_container {file : String} {l : Launch}
    (hl : l ∈ (ofContainer file volumes c).launches c) (options : FlowOptions)
    (cluster : Option Cluster) (resolve : Resolver) :
    (ofContainer file volumes c).launch options resolve
        ((ofContainer file volumes c).launchScope options cluster volumes c) l ⊆
      container file options cluster resolve volumes c := by
  rw [container_eq_append]
  exact fun _ step => List.mem_append_right _ (List.mem_flatMap.mpr ⟨l, hl, step⟩)

private theorem script_of_unseen {resolve : Resolver} {ref : ScriptRef}
    (unseen : (∃ e, resolve ref = .error e) ∨ options.maxReferenceDepth = 0) (expanded : Bool)
    (scope : Scope) : ∃ kind message cause,
      (kind = .unresolvedScript ∨ kind = .depthExceeded) ∧
      (p.script options resolve options.maxReferenceDepth [] expanded ref scope).steps =
        p.note kind message :: p.deadEnd scope ref.key cause := by
  cases depth : options.maxReferenceDepth with
  | zero => exact ⟨_, _, _, .inr rfl, rfl⟩
  | succ less =>
    obtain ⟨e, failed⟩ := unseen.resolve_right (by simp [depth])
    refine ⟨.unresolvedScript, e.message, causeOf e, .inl rfl, ?_⟩
    simp [script, failed]

end Place

/-- A container runs a file as a script: the first argument of a shell that is no option, unless a
text among the arguments is run, or any word that looks like a script if no shell is run. -/
inductive Container.Launches (c : Container) : String → Prop
  | shell {shell target : String} {before after : List String} :
      c.argv = shell :: (before ++ target :: after) → Shell.namesShell shell = true →
      Place.inlineIndex? c.argv = none →
      (∀ option ∈ before, "-".toList <+: option.toList) → ¬ "-".toList <+: target.toList →
      Launches c target
  | command {first target : String} {rest : List String} : c.argv = first :: rest →
      Shell.namesShell first = false → target ∈ c.argv → Shell.namesScript target = true →
      Launches c target

private theorem Container.Launches.mem_launches {c : Container} {target : String}
    (launches : c.Launches target) (p : Place) :
    ⟨p.scriptRef target none, false⟩ ∈ p.launches c := by
  have of_launched (files : Place.inlineIndex? c.argv = none)
      (runs : target ∈ Place.launched c.argv) :
      ⟨p.scriptRef target none, false⟩ ∈ p.launches c := by
    simp only [Place.launches, files, Option.bind_none]
    exact List.mem_map.mpr ⟨target, runs, rfl⟩
  cases launches with
  | @shell shell target before after argv names files options word =>
    refine of_launched files ?_
    have first : (before ++ target :: after).find? (fun a => !"-".toList.isPrefixOf a.toList) =
        some target := by
      refine List.find?_eq_some_iff_append.mpr ⟨?_, before, after, rfl, ?_⟩
      · rwa [Bool.not_eq_true', ← Bool.not_eq_true, List.isPrefixOf_iff_prefix]
      · intro a ha
        rw [Bool.not_not, List.isPrefixOf_iff_prefix]
        exact options a ha
    simp only [Place.launched, argv, names, if_true, first]
    exact List.mem_singleton_self target
  | @command first target rest argv names among script =>
    refine of_launched (by simp [Place.inlineIndex?, argv, names]) ?_
    rw [argv] at among ⊢
    simp only [Place.launched, names, Bool.false_eq_true, if_false]
    exact List.mem_filter.mpr ⟨among, script⟩

/-- The labels of the secrets that child processes of a container see: variables of the environment
that no later entry sets, imported secrets whose keys are not known, and mounted secrets. -/
inductive Container.HandsOn (c : Container) (volumes : List Volume) (cluster : Option Cluster) :
    String → Prop
  | set {e : EnvVariable} : c.TakesSecret e → HandsOn c volumes cluster s!"env:{e.name}"
  | imported {e : EnvImport} {secret : String} : e ∈ c.envFrom → e.source = .secret secret →
      cluster.bind (·.secretKeys? secret) = none → HandsOn c volumes cluster s!"envFrom:{secret}"
  | mounted {m : VolumeMount} {secret : String} {items : List KeyPath} : m ∈ c.mounts →
      (volume? volumes m.name).map Volume.source = some (.secret secret items) →
      (∃ letter ∈ m.mountPath.toList, letter ≠ '/') →
      HandsOn c volumes cluster s!"secret-volume:{m.name}"

private theorem NodeKind.isTerminal_of_isUnresolved {kind : NodeKind}
    (unresolved : kind.isUnresolved = true) : kind.isTerminal = true := by
  cases kind with
  | unresolved cause => rfl
  | _ => cases unresolved

namespace Graph

variable {g : Graph} {limits : MiningLimits} {first last : Node}

private theorem leakPath_of_flow (wf : g.WellFormed) (hfirst : first ∈ g.nodes)
    (hlast : last ∈ g.nodes)
    (declares : first.kind = .secretDeclaration) (terminal : last.kind.isTerminal = true)
    (flow : g.Flows first.id last.id) (long : 1 ≤ limits.pathEdges) :
    g.LeakPath limits.pathEdges [first, last] where
  inGraph := by simp [hfirst, hlast]
  simple := by
    have distinct : first.id ≠ last.id := by
      intro same
      rw [← wf.eq_of_id hfirst hlast same, declares] at terminal
      cases terminal
    simp [distinct]
  starts := ⟨first, rfl, declares⟩
  ends := ⟨last, rfl, terminal⟩
  inner := by simp
  long := by simp
  short := by simpa using long
  joined := by simp [flow]

private theorem mine_unverifiable (wf : g.WellFormed) {path : List Node}
    (leak : g.LeakPath limits.pathEdges path) (ends : path.getLast? = some last)
    (unresolved : last.kind.isUnresolved = true) (whole : (g.mine limits).truncated = none) :
    ∃ f ∈ (g.mine limits).findings, f.confidence = .low ∧ f.reason = .unverifiableReference ∧
      f.path = path.map (·.id) := by
  obtain ⟨first, head, _⟩ := leak.starts
  refine ⟨_, (mem_mine_iff wf whole).mpr ⟨path, first, last, leak, head, ends, rfl⟩, ?_, ?_, rfl⟩
  · simp [Finding.ofPath, scorePath, unresolved]
  · simp [Finding.ofPath, LeakReason.ofPath, unresolved]

/-- Mining reports, with low confidence, that a secret may reach what could not be inspected. -/
def ReportsUnverifiable (g : Graph) (limits : MiningLimits) (secret deadEnd : NodeId) : Prop :=
  ∃ f ∈ (g.mine limits).findings, f.confidence = .low ∧ f.reason = .unverifiableReference ∧
    f.path.head? = some secret ∧ f.path.getLast? = some deadEnd

def Only (g : Graph) (id : NodeId) (condition : NodeKind → Prop) : Prop :=
  ∀ n ∈ g.nodes, n.id = id → condition n.kind

variable {secret middle deadEnd : NodeId}

private theorem reportsUnverifiable_of_flow (wf : g.WellFormed) (flow : g.Flows secret deadEnd)
    (declares : g.Only secret (· = .secretDeclaration))
    (unresolved : g.Only deadEnd (·.isUnresolved = true)) (long : 1 ≤ limits.pathEdges)
    (whole : (g.mine limits).truncated = none) : g.ReportsUnverifiable limits secret deadEnd := by
  obtain ⟨r, flows, edge⟩ := flow
  obtain ⟨first, hfirst, rfl⟩ := contains_iff.mp (wf.closed _ edge).1
  obtain ⟨last, hlast, rfl⟩ := contains_iff.mp (wf.closed _ edge).2
  have ends := unresolved last hlast rfl
  have leak := leakPath_of_flow wf hfirst hlast (declares first hfirst rfl)
    (NodeKind.isTerminal_of_isUnresolved ends) ⟨r, flows, edge⟩ long
  obtain ⟨f, hf, low, reason, path⟩ := mine_unverifiable wf leak rfl ends whole
  exact ⟨f, hf, low, reason, by simp [path], by simp [path]⟩

private theorem reportsUnverifiable_of_flows (wf : g.WellFormed) (into : g.Flows secret middle)
    (out : g.Flows middle deadEnd) (declares : g.Only secret (· = .secretDeclaration))
    (mounts : g.Only middle (· = .volumeMountRef))
    (unresolved : g.Only deadEnd (·.isUnresolved = true)) (long : 2 ≤ limits.pathEdges)
    (whole : (g.mine limits).truncated = none) : g.ReportsUnverifiable limits secret deadEnd := by
  obtain ⟨r, flows, edge⟩ := into
  obtain ⟨r', flows', edge'⟩ := out
  obtain ⟨first, hfirst, rfl⟩ := contains_iff.mp (wf.closed _ edge).1
  obtain ⟨second, hsecond, rfl⟩ := contains_iff.mp (wf.closed _ edge).2
  obtain ⟨last, hlast, rfl⟩ := contains_iff.mp (wf.closed _ edge').2
  have ends := unresolved last hlast rfl
  have mount := mounts second hsecond rfl
  have leak := leakPath_of_flows wf hfirst hsecond hlast (declares first hfirst rfl)
    (by simp [mount]) (by simp [mount, NodeKind.isTerminal])
    (NodeKind.isTerminal_of_isUnresolved ends) ⟨r, flows, edge⟩ ⟨r', flows', edge'⟩ long
  obtain ⟨f, hf, low, reason, path⟩ := mine_unverifiable wf leak rfl ends whole
  exact ⟨f, hf, low, reason, by simp [path], by simp [path]⟩

end Graph

namespace Manifest

section Unseen

variable {m : Manifest} {options : FlowOptions} {cluster : Option Cluster} {resolve : Resolver}
  {pod : PodSpec} {c : Container} {target : String}

private theorem flows_deadEnd (hpod : m.pod? = some pod) (hc : c ∈ pod.containers)
    (launches : c.Launches target) (cluster : Option Cluster)
    (unseen : let ref := (Place.ofContainer m.file pod.volumes c).scriptRef target none
      (∃ e, resolve ref = .error e) ∨ options.maxReferenceDepth = 0) :
    let g := m.flowGraph options cluster resolve
    let p := Place.ofContainer m.file pod.volumes c
    let deadEnd := p.id s!"unresolved:{(p.scriptRef target none).key}"
    g.contains deadEnd ∧
    (∃ d ∈ g.diagnostics, d.origin = some (p.origin c.field) ∧
      (d.kind = .unresolvedScript ∨ d.kind = .depthExceeded)) ∧
    ∀ b ∈ (p.launchScope options cluster pod.volumes c).exported.bindings, b.node ≠ deadEnd →
      g.Flows b.node deadEnd := by
  intro g p deadEnd
  have taken := List.Subset.trans
    (Place.launch_subset_container (launches.mem_launches p) options cluster resolve)
    (container_subset_flowSteps hpod hc options cluster resolve)
  obtain ⟨kind, message, cause, noted, steps⟩ := Place.script_of_unseen (p := p) unseen false
    (p.launchScope options cluster pod.volumes c).exported
  have launched : p.launch options resolve (p.launchScope options cluster pod.volumes c)
      ⟨p.scriptRef target none, false⟩ = p.note kind message :: p.deadEnd
        (p.launchScope options cluster pod.volumes c).exported (p.scriptRef target none).key cause :=
    steps
  rw [launched] at taken
  refine ⟨?_, ?_, ?_⟩
  · exact Graph.contains_run (taken (List.mem_cons_of_mem _ List.mem_cons_self))
  · exact ⟨_, Graph.mem_run_diagnostics (taken List.mem_cons_self) _, rfl, noted⟩
  · intro b hb other
    obtain ⟨a, ha, node⟩ := Scope.exists_mem_tainted hb
    have linked := GraphStep.mem_linkAll.mpr ⟨a, ha, node ▸ other, rfl⟩
    refine ⟨if a.direct then .injectsInto else .referencedBy, by split <;> rfl, ?_⟩
    rw [← node]
    exact (m.grounded_flowSteps options cluster resolve).edge_mem m.unitId
      (taken (List.mem_cons_of_mem _ (List.mem_cons_of_mem _ linked)))

private theorem flows_mount (plain : m.PlainNames) (hpod : m.pod? = some pod)
    (hc : c ∈ pod.containers)
    {v : VolumeMount} (hv : v ∈ c.mounts) {secret : String} {items : List KeyPath}
    (source : (volume? pod.volumes v.name).map Volume.source = some (.secret secret items)) :
    let p := Place.ofContainer m.file pod.volumes c
    (m.flowGraph options cluster resolve).Flows (p.id s!"secret-volume:{v.name}")
      (p.id s!"mount:{v.name}") := by
  intro p
  have declared : c.Labels pod.volumes .secretDeclaration s!"secret-volume:{v.name}" :=
    .secretVolume hv source
  have other : p.id s!"secret-volume:{v.name}" ≠ p.id s!"mount:{v.name}" :=
    declared.id_ne (.mounted v.name) (by decide) (plain pod hpod c hc)
  obtain ⟨inner, _, taken⟩ := Walked.exists_of_mem (f := p.volumeMount pod.volumes)
    (P := fun _ => True) (w := c.env.foldl (Walked.andThen (p.envVariable options))
      (c.envFrom.foldl (Walked.andThen (p.envImport cluster)) { scope := {} }))
    (fun _ _ _ _ => trivial) trivial hv
  have made : .edge ⟨p.id s!"secret-volume:{v.name}", p.id s!"mount:{v.name}", .injectsInto⟩ ∈
      (p.volumeMount pod.volumes inner v).steps := by
    simp [Place.volumeMount, source, GraphStep.mem_edgeBetween, other]
  exact ⟨.injectsInto, rfl, (m.grounded_flowSteps options cluster resolve).edge_mem m.unitId
    (container_subset_flowSteps hpod hc options cluster resolve
      (List.mem_append_left _ (taken made)))⟩

private theorem reported_of_handed (plain : m.PlainNames) (hpod : m.pod? = some pod)
    (hc : c ∈ pod.containers) {label key : String} (handed : c.HandsOn pod.volumes cluster label) :
    let g := m.flowGraph options cluster resolve
    let p := Place.ofContainer m.file pod.volumes c
    (∀ b ∈ (p.launchScope options cluster pod.volumes c).exported.bindings,
      b.node ≠ p.id s!"unresolved:{key}" → g.Flows b.node (p.id s!"unresolved:{key}")) →
    ∀ limits, 2 ≤ limits.pathEdges → (g.mine limits).truncated = none →
      g.ReportsUnverifiable limits (p.id label) (p.id s!"unresolved:{key}") := by
  intro g p linked limits long whole
  have wf : g.WellFormed := wellFormed_graphOf _ _
  have dead : c.Labels pod.volumes (.unresolved .notFound) s!"unresolved:{key}" := .unresolved _ _
  have unresolved : g.Only (p.id s!"unresolved:{key}") (·.isUnresolved = true) :=
    fun n hn id => NodeKind.isUnresolved_of_label (label_of_id plain hpod hc dead hn id)
  have inner {kind : NodeKind} {label : String} (labelled : c.Labels pod.volumes kind label)
      (within : kind.isTerminal = false) : g.Only (p.id label) (· = kind) :=
    fun n hn id => NodeKind.eq_of_label (label_of_id plain hpod hc labelled hn id) within
  have apart {kind : NodeKind} {label : String} (labelled : c.Labels pod.volumes kind label)
      (other : kind.label ≠ NodeKind.label (.unresolved .notFound)) :
      p.id label ≠ p.id s!"unresolved:{key}" :=
    labelled.id_ne dead other (plain pod hpod c hc)
  cases handed with
  | @set e takes =>
    obtain ⟨secret, key, source⟩ := takes.source
    have labelled : c.Labels pod.volumes .secretDeclaration s!"env:{e.name}" :=
      .secretVariable takes.mem_env source
    have flow := linked _ (Place.set_mem_launchScope takes) (apart labelled (by decide))
    exact Graph.reportsUnverifiable_of_flow wf flow (inner labelled rfl) unresolved
      (Nat.le_of_succ_le long) whole
  | @imported e secret he source absent =>
    have labelled : c.Labels pod.volumes .secretDeclaration s!"envFrom:{secret}" :=
      .imported he source
    have flow := linked _ (Place.imported_mem_launchScope he source absent)
      (apart labelled (by decide))
    exact Graph.reportsUnverifiable_of_flow wf flow (inner labelled rfl) unresolved
      (Nat.le_of_succ_le long) whole
  | @mounted v secret items hv source named =>
    have labelled : c.Labels pod.volumes .volumeMountRef s!"mount:{v.name}" := .mounted v.name
    have flow := linked _ (Place.mounted_mem_launchScope hv source named)
      (apart labelled (by decide))
    exact Graph.reportsUnverifiable_of_flows wf (flows_mount plain hpod hc hv source) flow
      (inner (.secretVolume hv source) rfl) (inner labelled rfl) unresolved long whole

end Unseen

/-- No secret is lost at a script that cannot be inspected. Let a container, of a manifest whose
containers have no colon in their names, launch a file that has no text, or let no script be walked
at all. Then the file has a dead end, it is noted, and mining that no limit stops reports, for every
secret that child processes of the container see, that it may reach the dead end. -/
theorem unseen_script_reported (m : Manifest) (options : FlowOptions) (cluster : Option Cluster)
    (resolve : Resolver) (plain : m.PlainNames) {pod : PodSpec} (hpod : m.pod? = some pod)
    {c : Container} (hc : c ∈ pod.containers) {target : String} (launches : c.Launches target)
    (unseen : let ref := (Place.ofContainer m.file pod.volumes c).scriptRef target none
      (∃ e, resolve ref = .error e) ∨ options.maxReferenceDepth = 0) :
    let g := m.flowGraph options cluster resolve
    let p := Place.ofContainer m.file pod.volumes c
    let deadEnd := p.id s!"unresolved:{(p.scriptRef target none).key}"
    (∃ n ∈ g.nodes, n.id = deadEnd ∧ n.kind.isUnresolved = true) ∧
    (∃ d ∈ g.diagnostics, d.origin = some (p.origin c.field) ∧
      (d.kind = .unresolvedScript ∨ d.kind = .depthExceeded)) ∧
    ∀ label, c.HandsOn pod.volumes cluster label →
      ∀ limits, 2 ≤ limits.pathEdges → (g.mine limits).truncated = none →
        g.ReportsUnverifiable limits (p.id label) deadEnd := by
  intro g p deadEnd
  obtain ⟨made, noted, linked⟩ := flows_deadEnd hpod hc launches cluster unseen
  refine ⟨?_, noted, ?_⟩
  · obtain ⟨n, hn, id⟩ := Graph.contains_iff.mp made
    exact ⟨n, hn, id, NodeKind.isUnresolved_of_label
      (label_of_id plain hpod hc (.unresolved _ .notFound) hn id)⟩
  · intro label handed
    exact reported_of_handed plain hpod hc handed linked

/-- A container that runs a script which is nowhere to be found, with a secret in a variable, one
whose keys are not known and one that is mounted. -/
theorem unseen_script_reported_missing :
    let c : Container :=
      { Container.shell [⟨"TOKEN", .secretKey "api" "token", "env[0]"⟩] "" with
        command := ["tini", "/run.sh"]
        envFrom := [⟨.secret "db", "DB_", "envFrom[0]"⟩]
        mounts := [⟨"creds", "/etc/creds/", none, "volumeMounts[0]"⟩] }
    let pod : PodSpec :=
      { field := "spec", containers := [c], volumes := [⟨"creds", .secret "files" [], "volumes[0]"⟩] }
    let m : Manifest := { shellPod [] "" with body := .workload pod }
    let g := m.flowGraph .echoing none (.ofTable [])
    (∃ n ∈ g.nodes, n.id = "c:app:unresolved:file:/run.sh" ∧ n.kind.isUnresolved = true) ∧
    (∃ d ∈ g.diagnostics, d.kind = .unresolvedScript ∨ d.kind = .depthExceeded) ∧
    (g.mine).truncated = none ∧
    ∀ id ∈ ["c:app:env:TOKEN", "c:app:envFrom:db", "c:app:secret-volume:creds"],
      g.ReportsUnverifiable {} id "c:app:unresolved:file:/run.sh" := by
  intro c pod m g
  let p := Place.ofContainer m.file pod.volumes c
  let script : ScriptRef := .path "/run.sh"
  have plain : m.PlainNames := by
    rintro pod ⟨⟩ c hc
    obtain rfl := List.mem_singleton.mp hc
    exact (by decide : ':' ∉ "app".toList)
  have launches : c.Launches "/run.sh" :=
    .command rfl (by decide +kernel) (by decide) (by decide +kernel)
  have ref : p.scriptRef "/run.sh" none = script := by decide +kernel
  have missing : Resolver.ofTable [] script = .error (.notFound "file:/run.sh") := rfl
  obtain ⟨made, ⟨d, hd, _, kind⟩, reported⟩ := unseen_script_reported m .echoing none (.ofTable [])
    plain rfl (List.mem_singleton_self c) launches (.inl ⟨_, ref ▸ missing⟩)
  have id : p.id s!"unresolved:{script.key}" = "c:app:unresolved:file:/run.sh" := by decide +kernel
  rw [ref, id] at made reported
  have tainted : (p.launchScope .echoing none pod.volumes c).exported.tainted =
      [.toDeclaration "c:app:env:TOKEN", .toDeclaration "c:app:envFrom:db",
        .toReference "c:app:mount:creds"] := by
    have scope : p.launchScope .echoing none pod.volumes c =
        ⟨[("TOKEN", .toDeclaration "c:app:env:TOKEN")], [], [("DB_", "c:app:envFrom:db")],
          [("/etc/creds", "c:app:mount:creds")]⟩ := by decide +kernel
    rw [scope, Scope.tainted, List.mergeSort_of_pairwise (by decide +kernel)]
    decide +kernel
  have launched : p.launch .echoing (.ofTable []) (p.launchScope .echoing none pod.volumes c)
      ⟨script, false⟩ = p.note .unresolvedScript "script not found: file:/run.sh" ::
        p.deadEnd (p.launchScope .echoing none pod.volumes c).exported "file:/run.sh" .notFound :=
    rfl
  have runs : p.launches c = [⟨script, false⟩] := by decide +kernel
  -- the bindings are sorted before they are linked, which the kernel does not evaluate
  have container : Place.container m.file .echoing none (.ofTable []) pod.volumes c =
      p.stepsToLaunch .echoing none pod.volumes c ++ (p.launches c).flatMap
        (p.launch .echoing (.ofTable []) (p.launchScope .echoing none pod.volumes c)) :=
    Place.container_eq_append m.file .echoing none (.ofTable []) pod.volumes c
  rw [runs, List.flatMap_singleton, launched, Place.deadEnd, tainted] at container
  have steps : m.flowSteps .echoing none (.ofTable []) = m.openingSteps ++
      Place.container m.file .echoing none (.ofTable []) pod.volumes c :=
    congrArg (m.openingSteps ++ ·) (List.flatMap_singleton (Place.container _ _ _ _ _) c)
  have wf : g.WellFormed := wellFormed_graphOf _ _
  have effort : g.effort {} < 1000 := by
    change (Graph.run _ (m.flowSteps .echoing none (.ofTable []))).effort {} < 1000
    rw [steps, container]
    decide +kernel
  have whole : (g.mine).truncated = none :=
    Graph.truncated_mine_of_effort wf effort (effort.trans (by decide))
  refine ⟨made, ⟨d, hd, kind⟩, whole, ?_⟩
  intro id hid
  simp only [List.mem_cons, List.not_mem_nil, or_false] at hid
  rcases hid with rfl | rfl | rfl
  · exact reported _ (.set ⟨⟨[], [], rfl, List.forall_mem_nil _⟩, "api", "token", rfl⟩) {}
      (by decide) whole
  · exact reported _ (.imported List.mem_cons_self rfl rfl) {} (by decide) whole
  · exact reported _ (.mounted List.mem_cons_self rfl ⟨'e', by decide, by decide⟩) {} (by decide)
      whole

end Manifest

end SecretFlow

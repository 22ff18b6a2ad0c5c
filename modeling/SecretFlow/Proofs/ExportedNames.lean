import SecretFlow.Proofs.ScriptVisits

set_option autoImplicit false
set_option relaxedAutoImplicit false

/-!
Exported names. A script that runs in a process of its own sees a variable only if it is exported,
and it is the binding of a name that is exported, not the name. A name that holds no secret has no
binding. So a name that is set from a secret reaches child processes if the assignment exports it or
if it was exported and has held a secret ever since; a name that was clean in between does not.
-/

namespace SecretFlow

def Scope.exports (s : Scope) (name : String) : Bool :=
  ((s.get? name).map (·.exported)).getD false

private theorem Scope.exports_iff {s : Scope} {name : String} :
    s.exports name = true ↔ ∃ b, s.get? name = some b ∧ b.exported = true := by
  unfold exports
  cases s.get? name <;> simp

namespace Place

section Naming

variable (p : Place) (options : FlowOptions) (resolve : Resolver)

/-- Whether child processes see the name that a statement sets: the assignment exports it, or what
the name was bound to was exported. -/
def passesOn (expanded : Bool) (scope : Scope) (s : Shell.Statement) (a : Shell.Assignment) : Bool :=
  a.exported || (p.mentioned expanded scope s).scope.exports a.name

def SourcesNone (v : Visit) (name : String) (s : Shell.Statement) : Prop :=
  ∀ i, s.invocation = some i → i.mode = .source →
    p.Spares resolve (v.depth - 1) (v.ref.key :: v.around) (p.scriptRef i.target (some v.ref)) name

def LeavesAlone (v : Visit) (name : String) (s : Shell.Statement) : Prop :=
  ¬ s.Assigns name ∧ p.SourcesNone resolve v name s

structure Taints (v : Visit) (before : List Shell.Statement) (s : Shell.Statement)
    (a : Shell.Assignment) : Prop where
  assigns : s.assignment = some a
  mentions : (p.mentioned v.expanded (p.scopeAfter options resolve v before) s).bindings ≠ []
  sources : p.SourcesNone resolve v a.name s

/-- After the first statements of a visited script a name is exported and has held a secret ever
since it was: from the start, or from where a statement exported it. -/
inductive StaysExported (v : Visit) (name : String) : List Shell.Statement → Prop
  | start : v.scope.exports name = true → StaysExported v name []
  | exported {before : List Shell.Statement} {s : Shell.Statement} {a : Shell.Assignment} :
      p.Taints options resolve v before s a → a.name = name → a.exported = true →
      StaysExported v name (before ++ [s])
  | tainted {before : List Shell.Statement} {s : Shell.Statement} {a : Shell.Assignment} :
      StaysExported v name before → p.Taints options resolve v before s a → a.name = name →
      StaysExported v name (before ++ [s])
  | alone {before : List Shell.Statement} {s : Shell.Statement} :
      StaysExported v name before → p.LeavesAlone resolve v name s →
      StaysExported v name (before ++ [s])

end Naming

variable {p : Place} {options : FlowOptions} {resolve : Resolver} {v : Visit} {name : String}
  {scope : Scope} {b : Binding} {s t : Shell.Statement} {a : Shell.Assignment}
  {before : List Shell.Statement}

private theorem statementOn_keeps (sources : p.SourcesNone resolve v name s)
    (bound : (p.statementAlone options.sinks v.ref v.expanded scope s).scope.get? name = some b) :
    (p.statementOn options resolve v scope s).scope.get? name = some b := by
  unfold statementOn statement
  dsimp only
  split
  · exact bound
  · rename_i i invokes
    split
    · rename_i mode
      exact script_keeps options false (sources i invokes mode) bound
    · exact bound

private theorem LeavesAlone.get?_statementOn (alone : p.LeavesAlone resolve v name s)
    (bound : scope.get? name = some b) :
    (p.statementOn options resolve v scope s).scope.get? name = some b :=
  statementOn_keeps alone.2 (statementAlone_keeps bound alone.1 _ _ _)

private theorem get?_scopeAfter_append {more : List Shell.Statement}
    (alone : ∀ s ∈ more, p.LeavesAlone resolve v name s)
    (bound : (p.scopeAfter options resolve v before).get? name = some b) :
    (p.scopeAfter options resolve v (before ++ more)).get? name = some b := by
  unfold scopeAfter
  rw [statementsOn_append]
  refine Walked.foldl_keeps (P := fun sc : Scope => sc.get? name = some b) ?_ bound
  intro s hs sc here
  exact (alone s hs).get?_statementOn here

private theorem Taints.get?_scopeAfter (taints : p.Taints options resolve v before t a) :
    (p.scopeAfter options resolve v (before ++ [t])).get? a.name =
      some ⟨p.statementId v.ref t, false,
        p.passesOn v.expanded (p.scopeAfter options resolve v before) t a⟩ := by
  rw [scopeAfter_concat]
  refine statementOn_keeps taints.sources ?_
  have tainted : (p.mentioned v.expanded (p.scopeAfter options resolve v before) t).bindings.isEmpty =
      false := List.isEmpty_eq_false_iff.mpr taints.mentions
  simp only [statementAlone, taints.assigns, tainted, assign, Bool.not_false, if_true,
    Scope.get?_bind_self]
  rfl

private theorem exports_mentioned (exported : scope.exports name = true) (expanded : Bool)
    (s : Shell.Statement) : (p.mentioned expanded scope s).scope.exports name = true := by
  obtain ⟨b, bound, seen⟩ := Scope.exports_iff.mp exported
  exact Scope.exports_iff.mpr ⟨b, mentioned_keeps bound expanded s, seen⟩

private theorem StaysExported.exports (stays : p.StaysExported options resolve v name before) :
    (p.scopeAfter options resolve v before).exports name = true := by
  induction stays with
  | start exported => exact exported
  | exported taints named exported =>
    subst named
    exact Scope.exports_iff.mpr ⟨_, taints.get?_scopeAfter, by simp [passesOn, exported]⟩
  | tainted _ taints named ih =>
    subst named
    exact Scope.exports_iff.mpr
      ⟨_, taints.get?_scopeAfter, by simp [passesOn, exports_mentioned ih]⟩
  | alone _ alone ih =>
    obtain ⟨b, bound, seen⟩ := Scope.exports_iff.mp ih
    rw [Scope.exports_iff, scopeAfter_concat]
    exact ⟨b, alone.get?_statementOn bound, seen⟩

private theorem StaysExported.passesOn (stays : p.StaysExported options resolve v a.name before)
    (t : Shell.Statement) :
    p.passesOn v.expanded (p.scopeAfter options resolve v before) t a = true := by
  simp [Place.passesOn, exports_mentioned stays.exports]

private theorem Taints.get?_childVisit (taints : p.Taints options resolve v before t a)
    (distinct : v.scope.Distinct) {between : List Shell.Statement}
    (alone : ∀ s ∈ between, p.LeavesAlone resolve v a.name s) {e : Shell.Statement}
    (spares : ¬ e.Assigns a.name) {i : Shell.Invocation} (executes : i.mode = .execute) :
    (p.childVisit options v (p.scopeAfter options resolve v (before ++ [t] ++ between)) e
      i).scope.get? a.name =
        if p.passesOn v.expanded (p.scopeAfter options resolve v before) t a then
          some ⟨p.statementId v.ref t, false, true⟩
        else none := by
  have bound := statementAlone_keeps (p := p) (get?_scopeAfter_append alone taints.get?_scopeAfter)
    spares options.sinks v.ref v.expanded
  have once : (p.scopeAfter options resolve v (before ++ [t] ++ between)).Distinct :=
    scopeAfter_distinct distinct _
  simp only [childVisit, executes]
  rw [(statementAlone_distinct once _ _ _ _).get?_exported_eq, bound]
  cases p.passesOn v.expanded (p.scopeAfter options resolve v before) t a <;> rfl

private theorem edge_mem_walk {text : String} (opens : v.Opens resolve text)
    {after : List Shell.Statement} (split : Shell.statements text = before ++ s :: after)
    (alone : ∀ s ∈ before, p.LeavesAlone resolve v name s) (uses : name ∈ s.variableNames)
    (bound : v.scope.get? name = some b) (other : b.node ≠ p.statementId v.ref s) :
    .edge ⟨b.node, p.statementId v.ref s, if b.direct then .injectsInto else .referencedBy⟩ ∈
      (p.walk options resolve v).steps := by
  have here : (p.scopeAfter options resolve v ([] ++ before)).get? name = some b :=
    get?_scopeAfter_append alone bound
  rw [List.nil_append] at here
  have found := mem_mentioned (p := p) here v.expanded uses
  have some_found : (p.mentioned v.expanded (p.scopeAfter options resolve v before)
      s).bindings.isEmpty = false := List.isEmpty_eq_false_iff.mpr (List.ne_nil_of_mem found)
  refine statementOn_subset_walk opens split (steps_statementAlone_subset p _ _ _ _ _ s ?_)
  refine List.mem_append_right _ (List.mem_append_left _ ?_)
  rw [some_found]
  exact List.mem_cons_of_mem _ (GraphStep.mem_linkAll.mpr ⟨b, found, other, rfl⟩)

private theorem exports_launchVisit {cluster : Option Cluster} {volumes : List Volume}
    {c : Container} {l : Launch}
    (bound : ((launchVisit options (p.launchScope options cluster volumes c) l).scope.get?
      name).isSome) :
    (launchVisit options (p.launchScope options cluster volumes c) l).scope.exports name = true := by
  have seen : (launchVisit options (p.launchScope options cluster volumes c) l).scope.Open := by
    have whole := Scope.lasting_open.launchScope (p := p) options cluster volumes c
    unfold launchVisit
    dsimp only
    split
    · exact whole
    · exact Scope.open_exported _
  obtain ⟨b, hb⟩ := Option.isSome_iff_exists.mp bound
  exact Scope.exports_iff.mpr ⟨b, hb, seen.exported_of_get? hb⟩

end Place

namespace Manifest

/-- A name stays exported while it holds a secret. Let a container come to walk a script in which a
statement sets a name from a secret and a later one executes a script, and let nothing between set
the name. The executed script sees the name, bound to the first statement, exactly if the assignment
passes it on; then every statement of it that uses the name, before the script sets it, is linked
from that statement. The assignment does so if the name is exported and has held a secret ever
since, and every name that holds a secret when the container starts is exported. -/
theorem exported_while_tainted (m : Manifest) (options : FlowOptions) (cluster : Option Cluster)
    (resolve : Resolver) {pod : PodSpec} (hpod : m.pod? = some pod) {c : Container}
    (hc : c ∈ pod.containers) {v : Visit} {text : String} {before between after : List Shell.Statement}
    {t e : Shell.Statement} {a : Shell.Assignment} {i : Shell.Invocation}
    (reached : (Place.ofContainer m.file pod.volumes c).Reaches options resolve cluster pod.volumes c v)
    (opens : v.Opens resolve text)
    (split : Shell.statements text = before ++ t :: (between ++ e :: after))
    (taints : (Place.ofContainer m.file pod.volumes c).Taints options resolve v before t a)
    (alone : ∀ s ∈ between,
      (Place.ofContainer m.file pod.volumes c).LeavesAlone resolve v a.name s)
    (invokes : e.invocation = some i) (executes : i.mode = .execute) (spares : ¬ e.Assigns a.name) :
    let p := Place.ofContainer m.file pod.volumes c
    let child := p.childVisit options v
      (p.scopeAfter options resolve v (before ++ [t] ++ between)) e i
    let passed := p.passesOn v.expanded (p.scopeAfter options resolve v before) t a
    (child.scope.get? a.name =
      if passed then some ⟨p.statementId v.ref t, false, true⟩ else none) ∧
    (passed = true → ∀ inner, child.Opens resolve inner →
      ∀ first u rest, Shell.statements inner = first ++ u :: rest →
        (∀ s ∈ first, p.LeavesAlone resolve child a.name s) → a.name ∈ u.variableNames →
        ⟨p.statementId v.ref t, p.statementId child.ref u, .referencedBy⟩ ∈
          (m.flowGraph options cluster resolve).edges) ∧
    (p.StaysExported options resolve v a.name before → passed = true) ∧
    (∀ l, v = Place.launchVisit options (p.launchScope options cluster pod.volumes c) l →
      (v.scope.get? a.name).isSome → p.StaysExported options resolve v a.name []) := by
  intro p child passed
  have bound : child.scope.get? a.name =
      if passed then some ⟨p.statementId v.ref t, false, true⟩ else none :=
    taints.get?_childVisit reached.distinct alone spares executes
  refine ⟨bound, ?_, fun stays => stays.passesOn t, ?_⟩
  · intro passes inner opened first u rest inside early uses
    rw [if_pos passes] at bound
    -- the executed script is another one, so its statements have other nodes
    have other : p.statementId v.ref t ≠ p.statementId child.ref u := by
      intro same
      have key := Place.key_eq_of_statementId_eq same
      exact opened.fresh (key ▸ List.mem_cons_self)
    have later : Shell.statements text = (before ++ [t] ++ between) ++ e :: after := by
      simpa using split
    have taken := (reached.invoked opens later invokes).steps_subset
      (Place.edge_mem_walk opened inside early uses bound other)
    exact (m.grounded_flowSteps options cluster resolve).edge_mem m.unitId
      (container_subset_flowSteps hpod hc options cluster resolve taken)
  · rintro l rfl held
    exact .start (Place.exports_launchVisit held)

/-- A variable that is exported, set once more from its own value, and used by a script that is then
executed. -/
theorem exported_while_tainted_again :
    let text := "export OUT=$TOKEN\nOUT=x$OUT\necho ready\n./child.sh"
    let m := shellPod [⟨"TOKEN", .secretKey "api" "token", "env[0]"⟩] text
    (Shell.statements text).map (fun s => (s.assignment, s.invocation)) =
      [(some ⟨"OUT", true⟩, none), (some ⟨"OUT", false⟩, none), (none, none),
        (none, some ⟨"./child.sh", .execute⟩)] ∧
    (⟨"c:app:inline:app:2.0", "c:app:file:./child.sh:1.0", .referencedBy⟩ : Edge) ∈
      (m.flowGraph .echoing none (.ofTable [("file:./child.sh", "echo $OUT")])).edges := by
  intro text m
  refine ⟨by decide +kernel, ?_⟩
  let c : Container := .shell [⟨"TOKEN", .secretKey "api" "token", "env[0]"⟩] text
  let p := Place.ofContainer m.file [] c
  let resolve := Resolver.ofTable [("file:./child.sh", "echo $OUT")]
  let v := Place.launchVisit .echoing (p.launchScope .echoing none [] c) ⟨.inline "app" text, true⟩
  let exporting : Shell.Statement :=
    ⟨1, 0, "export OUT=$TOKEN", none, ["TOKEN"], some ⟨"OUT", true⟩, none⟩
  let again : Shell.Statement := ⟨2, 0, "OUT=x$OUT", none, ["OUT"], some ⟨"OUT", false⟩, none⟩
  let ready : Shell.Statement := ⟨3, 0, "echo ready", none, [], none, none⟩
  let executing : Shell.Statement :=
    ⟨4, 0, "./child.sh", none, [], none, some ⟨"./child.sh", .execute⟩⟩
  let use : Shell.Statement := ⟨1, 0, "echo $OUT", none, ["OUT"], none, none⟩
  have first : p.Taints .echoing resolve v [] exporting ⟨"OUT", true⟩ :=
    ⟨rfl, by decide +kernel, fun i invokes => nomatch invokes⟩
  have second : p.Taints .echoing resolve v [exporting] again ⟨"OUT", false⟩ :=
    ⟨rfl, by decide +kernel, fun i invokes => nomatch invokes⟩
  have reached : p.Reaches .echoing resolve none [] c v := ⟨_, by decide +kernel, .itself _⟩
  have opens : v.Opens resolve text := ⟨by decide, by decide, rfl⟩
  have split : Shell.statements text = [exporting] ++ again :: ([ready] ++ executing :: []) := by
    decide +kernel
  have alone : ∀ s ∈ [ready], p.LeavesAlone resolve v "OUT" s := by
    intro s hs
    obtain rfl := List.mem_singleton.mp hs
    exact ⟨by decide, fun i invokes => nomatch invokes⟩
  obtain ⟨_, linked, stays, _⟩ := exported_while_tainted m .echoing none resolve rfl
    (List.mem_singleton_self c) reached opens split second alone rfl rfl (by decide)
  have passed := stays (.exported first rfl rfl)
  have source : p.statementId v.ref again = "c:app:inline:app:2.0" := by decide +kernel
  have target : p.statementId (p.scriptRef "./child.sh" (some v.ref)) use =
      "c:app:file:./child.sh:1.0" := by decide +kernel
  rw [← source, ← target]
  exact linked passed "echo $OUT" ⟨by decide, by decide +kernel, rfl⟩ [] use []
    (by decide +kernel) (List.forall_mem_nil _) (List.mem_singleton_self _)

/-- A variable of the container that holds no secret is no longer exported once a script sets it
from one: the script that is executed next uses it, and nothing leads there. -/
theorem clean_name_not_exported :
    let m := shellPod [⟨"TOKEN", .secretKey "api" "token", "env[0]"⟩,
      ⟨"OUT", .literal "none", "env[1]"⟩] "OUT=$TOKEN\n./child.sh"
    let g := m.flowGraph .echoing none (.ofTable [("file:./child.sh", "echo $OUT")])
    (Shell.statements "OUT=$TOKEN\n./child.sh").map (fun s => (s.assignment, s.invocation)) =
      [(some ⟨"OUT", false⟩, none), (none, some ⟨"./child.sh", .execute⟩)] ∧
    (Shell.statements "echo $OUT").map (·.variableNames) = [["OUT"]] ∧
    g.nodes.map (·.id) = ["root", "c:app:env:TOKEN", "c:app:inline:app:1.0",
      "c:app:file:./child.sh:1.0:sink"] ∧
    g.edges = [⟨"root", "c:app:env:TOKEN", .declares⟩,
      ⟨"c:app:env:TOKEN", "c:app:inline:app:1.0", .injectsInto⟩] := by
  decide +kernel

end Manifest

end SecretFlow

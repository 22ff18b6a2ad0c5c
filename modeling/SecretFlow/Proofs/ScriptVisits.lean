import SecretFlow.Proofs.UnseenScripts

set_option autoImplicit false
set_option relaxedAutoImplicit false

/-!
Visits of scripts. Walking a script comes to walk the scripts that its statements run, each in a
scope of its own that depends on all statements before. A visit is a script with the scope in which
it is walked; what is taken on a visit is part of the flow graph, and no scope of a visit binds a
name twice.
-/

namespace SecretFlow

/-- A script that is walked: how many levels are left to go, the labels of the scripts around it,
whether the cluster expands its text first, and the scope. -/
structure Visit where
  depth : Nat
  around : List String
  expanded : Bool
  ref : ScriptRef
  scope : Scope

/-- The script of a visit is walked statement by statement: a level is left for it, it is not being
walked already, and it has a text. -/
structure Visit.Opens (v : Visit) (resolve : Resolver) (text : String) : Prop where
  level : v.depth ≠ 0
  fresh : v.ref.key ∉ v.around
  resolved : resolve v.ref = .ok text

namespace Place

section Walking

variable (p : Place) (options : FlowOptions) (resolve : Resolver)

def walk (v : Visit) : Walked :=
  p.script options resolve v.depth v.around v.expanded v.ref v.scope

def statementOn (v : Visit) (scope : Scope) (s : Shell.Statement) : Walked :=
  p.statement options.sinks (p.script options resolve (v.depth - 1) (v.ref.key :: v.around) false)
    v.ref v.expanded scope s

def statementsOn (v : Visit) (ss : List Shell.Statement) : Walked :=
  ss.foldl (Walked.andThen (p.statementOn options resolve v)) { scope := v.scope }

def scopeAfter (v : Visit) (ss : List Shell.Statement) : Scope :=
  (p.statementsOn options resolve v ss).scope

def childVisit (v : Visit) (scope : Scope) (s : Shell.Statement) (i : Shell.Invocation) : Visit where
  depth := v.depth - 1
  around := v.ref.key :: v.around
  expanded := false
  ref := p.scriptRef i.target (some v.ref)
  scope :=
    let alone := p.statementAlone options.sinks v.ref v.expanded scope s
    match i.mode with
    | .source => alone.scope
    | .execute => alone.scope.exported

/-- A visit comes to another one: itself, or one to which a visit leads that a statement of its
script leads to. -/
inductive Visits : Visit → Visit → Prop
  | itself (v : Visit) : Visits v v
  | invoked {v w : Visit} {text : String} {before after : List Shell.Statement} {s : Shell.Statement}
      {i : Shell.Invocation} : v.Opens resolve text →
      Shell.statements text = before ++ s :: after → s.invocation = some i →
      Visits (p.childVisit options v (p.scopeAfter options resolve v before) s i) w → Visits v w

def launchVisit (scope : Scope) (l : Launch) : Visit :=
  ⟨options.maxReferenceDepth, [], l.inline, l.ref, if l.inline then scope else scope.exported⟩

def Reaches (cluster : Option Cluster) (volumes : List Volume) (c : Container) (v : Visit) : Prop :=
  ∃ l ∈ p.launches c,
    p.Visits options resolve (launchVisit options (p.launchScope options cluster volumes c) l) v

end Walking

variable {p : Place} {options : FlowOptions} {resolve : Resolver} {v w : Visit} {text : String}
  {before after : List Shell.Statement} {s : Shell.Statement} {i : Shell.Invocation}

theorem walk_of_opens (opens : v.Opens resolve text) :
    p.walk options resolve v = p.statementsOn options resolve v (Shell.statements text) := by
  obtain ⟨depth, around, expanded, ref, scope⟩ := v
  obtain ⟨levels, rfl⟩ := Nat.exists_eq_succ_of_ne_zero opens.level
  exact script_of_resolved options expanded opens.fresh opens.resolved scope

theorem statementsOn_append (before more : List Shell.Statement) :
    p.statementsOn options resolve v (before ++ more) =
      more.foldl (Walked.andThen (p.statementOn options resolve v))
        (p.statementsOn options resolve v before) :=
  List.foldl_append

theorem scopeAfter_concat (before : List Shell.Statement) (s : Shell.Statement) :
    p.scopeAfter options resolve v (before ++ [s]) =
      (p.statementOn options resolve v (p.scopeAfter options resolve v before) s).scope := by
  rw [scopeAfter, statementsOn_append]
  rfl

theorem statementOn_subset_walk (opens : v.Opens resolve text)
    (split : Shell.statements text = before ++ s :: after) :
    (p.statementOn options resolve v (p.scopeAfter options resolve v before) s).steps ⊆
      (p.walk options resolve v).steps := by
  rw [walk_of_opens opens, split, statementsOn_append, List.foldl_cons]
  refine List.Subset.trans ?_ Walked.steps_subset_foldl
  exact List.subset_append_right _ _

private theorem childVisit_subset_statementOn (invokes : s.invocation = some i) (scope : Scope) :
    (p.walk options resolve (p.childVisit options v scope s i)).steps ⊆
      (p.statementOn options resolve v scope s).steps := by
  unfold statementOn statement
  simp only [invokes]
  unfold childVisit walk
  cases i.mode <;> exact List.subset_append_right _ _

private theorem Visits.steps_subset (visits : p.Visits options resolve v w) :
    (p.walk options resolve w).steps ⊆ (p.walk options resolve v).steps := by
  induction visits with
  | itself v => exact List.Subset.refl _
  | invoked opens split invokes _ ih =>
    exact List.Subset.trans ih (List.Subset.trans (childVisit_subset_statementOn invokes _)
      (statementOn_subset_walk opens split))

private theorem Visits.trans {x : Visit} (visits : p.Visits options resolve v w)
    (further : p.Visits options resolve w x) : p.Visits options resolve v x := by
  induction visits with
  | itself v => exact further
  | invoked opens split invokes _ ih => exact .invoked opens split invokes (ih further)

theorem Reaches.invoked {cluster : Option Cluster} {volumes : List Volume} {c : Container}
    (reached : p.Reaches options resolve cluster volumes c v) (opens : v.Opens resolve text)
    (split : Shell.statements text = before ++ s :: after) (invokes : s.invocation = some i) :
    p.Reaches options resolve cluster volumes c
      (p.childVisit options v (p.scopeAfter options resolve v before) s i) := by
  obtain ⟨l, hl, visits⟩ := reached
  exact ⟨l, hl, visits.trans (.invoked opens split invokes (.itself _))⟩

theorem Reaches.steps_subset {file : String} {volumes : List Volume} {c : Container}
    {cluster : Option Cluster}
    (reached : (ofContainer file volumes c).Reaches options resolve cluster volumes c v) :
    ((ofContainer file volumes c).walk options resolve v).steps ⊆
      container file options cluster resolve volumes c := by
  obtain ⟨l, hl, visits⟩ := reached
  exact List.Subset.trans visits.steps_subset (launch_subset_container hl options cluster resolve)

end Place

namespace Scope

def Distinct (s : Scope) : Prop :=
  (s.vars.map (·.1)).Nodup

variable {s : Scope}

private theorem Distinct.bind (distinct : s.Distinct) (name : String) (b : Binding) :
    (s.bind name b).Distinct := by
  refine List.nodup_cons.mpr ⟨?_, ?_⟩
  · simp
  · exact List.Nodup.sublist (List.filter_sublist.map _) distinct

private theorem Distinct.clear (distinct : s.Distinct) (name : String) : (s.clear name).Distinct :=
  List.Nodup.sublist (List.filter_sublist.map _) distinct

private theorem Distinct.exported (distinct : s.Distinct) : s.exported.Distinct :=
  List.Nodup.sublist (List.filter_sublist.map _) distinct

private theorem Distinct.get?_eq_some_iff (distinct : s.Distinct) {name : String} {b : Binding} :
    s.get? name = some b ↔ (name, b) ∈ s.vars := by
  constructor
  · intro bound
    obtain ⟨var, found, rfl⟩ := Option.map_eq_some_iff.mp bound
    have same : var.1 = name := by simpa using List.find?_some found
    rw [← same]
    exact List.mem_of_find?_eq_some found
  · intro among
    have found : (s.vars.find? (·.1 = name)).isSome := by
      rw [List.find?_isSome]
      exact ⟨_, among, by simp⟩
    obtain ⟨var, hvar⟩ := Option.isSome_iff_exists.mp found
    have same : var.1 = name := by simpa using List.find?_some hvar
    obtain rfl := List.inj_on_of_nodup_map distinct (List.mem_of_find?_eq_some hvar) among same
    rw [get?, hvar]
    rfl

theorem Distinct.get?_exported_eq (distinct : s.Distinct) (name : String) :
    s.exported.get? name = (s.get? name).filter (·.exported) := by
  refine Option.ext fun b => ?_
  rw [distinct.exported.get?_eq_some_iff, Option.filter_eq_some_iff, distinct.get?_eq_some_iff]
  exact List.mem_filter

def Open (s : Scope) : Prop :=
  ∀ var ∈ s.vars, var.2.exported = true

theorem Open.exported_of_get? (all : s.Open) {name : String} {b : Binding}
    (bound : s.get? name = some b) : b.exported = true := by
  obtain ⟨var, found, rfl⟩ := Option.map_eq_some_iff.mp bound
  exact all var (List.mem_of_find?_eq_some found)

theorem open_exported (s : Scope) : s.exported.Open :=
  fun _ hvar => (List.mem_filter.mp hvar).2

/-- A property of the bindings of a scope that holds if there are none, and lasts when a name is
cleared or is bound to what child processes see. -/
structure Lasting (P : Scope → Prop) : Prop where
  empty : P {}
  bind {s : Scope} (name : String) {b : Binding} : P s → b.exported = true → P (s.bind name b)
  clear {s : Scope} (name : String) : P s → P (s.clear name)
  same {s t : Scope} : P s → s.vars = t.vars → P t

private theorem lasting_distinct : Lasting Distinct where
  empty := List.nodup_nil
  bind name b distinct _ := distinct.bind name b
  clear name distinct := distinct.clear name
  same distinct vars := by
    unfold Distinct
    rw [← vars]
    exact distinct

theorem lasting_open : Lasting Open where
  empty _ hvar := absurd hvar List.not_mem_nil
  bind _ _ all exported := by
    intro var hvar
    rcases List.mem_cons.mp hvar with rfl | old
    · exact exported
    · exact all var (List.mem_filter.mp old).1
  clear _ all := fun var hvar => all var (List.mem_filter.mp hvar).1
  same all vars := fun var hvar => all var (vars ▸ hvar)

/-- A property of scopes that lasts when a name is cleared or is bound to what child processes see,
and when a secret whose keys are not known is imported. -/
structure Stable (P : Scope → Prop) : Prop where
  bind {s : Scope} (name : String) {b : Binding} : P s → b.exported = true → P (s.bind name b)
  clear {s : Scope} (name : String) : P s → P (s.clear name)
  addUnknown {s : Scope} (unknown : List (String × NodeId)) : P s → P { s with unknown }

private theorem Lasting.stable {P : Scope → Prop} (lasting : Lasting P) : Stable P :=
  ⟨lasting.bind, lasting.clear, fun _ here => lasting.same here rfl⟩

theorem stable_mounts (mounts : List (String × NodeId)) : Stable (·.mounts = mounts) where
  bind _ _ same _ := same
  clear _ same := same
  addUnknown _ same := same

namespace Stable

variable {P : Scope → Prop} (stable : Stable P) {p : Place} {scope : Scope}

include stable

private theorem lookup (here : P scope) (name : String) : P (p.lookup scope name).scope := by
  unfold Place.lookup
  split
  · exact here
  · split
    · exact here
    · dsimp only
      split
      · exact here
      · exact stable.bind _ here rfl

private theorem lookupAll (here : P scope) (names : List String) :
    P (p.lookupAll scope names).scope :=
  List.foldlRecOn (motive := fun found : Found => P found.scope) _ _ here
    fun _ here name _ => stable.lookup here name

theorem mentioned (here : P scope) (expanded : Bool) (s : Shell.Statement) :
    P (p.mentioned expanded scope s).scope :=
  stable.lookupAll here _

private theorem envImport (cluster : Option Cluster) (here : P scope) (e : EnvImport) :
    P (p.envImport cluster scope e).scope := by
  unfold Place.envImport
  split
  · dsimp only
    split
    · exact List.foldlRecOn (motive := P) _ _ here fun _ here name _ => stable.bind name here rfl
    · exact stable.addUnknown _ here
  · exact List.foldlRecOn (motive := P) _ _ here fun _ here key _ => stable.clear _ here

private theorem envVariable (options : FlowOptions) (here : P scope) (e : EnvVariable) :
    P (p.envVariable options scope e).scope := by
  unfold Place.envVariable
  dsimp only
  split
  · exact stable.bind _ here rfl
  · split
    · exact stable.clear _ (stable.lookupAll here _)
    · exact stable.bind _ (stable.lookupAll here _) rfl
  · exact stable.clear _ here

theorem environment (options : FlowOptions) (cluster : Option Cluster) (c : Container)
    (empty : P {}) : P (c.env.foldl (Walked.andThen (p.envVariable options))
      (c.envFrom.foldl (Walked.andThen (p.envImport cluster)) { scope := {} })).scope := by
  refine Walked.foldl_keeps (fun e _ _ here => stable.envVariable options here e) ?_
  exact Walked.foldl_keeps (fun e _ _ here => stable.envImport cluster here e) empty

theorem arguments (here : P scope) (c : Container) : P (p.arguments scope c).1.scope := by
  refine List.foldlRecOn (motive := fun w : Walked × List NodeId => P w.1.scope) _ _ here ?_
  intro w here arg _
  unfold Place.argument
  dsimp only
  split <;> exact stable.lookupAll here _

end Stable

namespace Lasting

variable {P : Scope → Prop} (lasting : Lasting P) {p : Place} {scope : Scope}

include lasting

private theorem volumeMount (volumes : List Volume) (here : P scope) (m : VolumeMount) :
    P (p.volumeMount volumes scope m).scope := by
  unfold Place.volumeMount
  split
  · dsimp only
    split
    · exact here
    · exact lasting.same here rfl
  · exact here

theorem launchScope (options : FlowOptions) (cluster : Option Cluster) (volumes : List Volume)
    (c : Container) : P (p.launchScope options cluster volumes c) := by
  refine lasting.stable.arguments ?_ c
  refine Walked.foldl_keeps (fun m _ _ here => lasting.volumeMount volumes here m) ?_
  exact lasting.stable.environment options cluster c lasting.empty

end Lasting

end Scope

namespace Place

section Distinct

variable {p : Place} {scope : Scope}

theorem statementAlone_distinct (distinct : scope.Distinct) (rules : List SinkRule)
    (script : ScriptRef) (expanded : Bool) (s : Shell.Statement) :
    (p.statementAlone rules script expanded scope s).scope.Distinct := by
  have mentioned : (p.mentioned expanded scope s).scope.Distinct :=
    Scope.lasting_distinct.stable.mentioned distinct expanded s
  unfold statementAlone
  dsimp only
  split
  · unfold assign
    split
    · exact mentioned.bind _ _
    · exact mentioned.clear _
  · exact mentioned

private theorem statement_distinct (distinct : scope.Distinct) (rules : List SinkRule)
    {walk : ScriptWalk}
    (child : ∀ ref (inner : Scope), inner.Distinct → (walk ref inner).scope.Distinct)
    (script : ScriptRef) (expanded : Bool) (s : Shell.Statement) :
    (p.statement rules walk script expanded scope s).scope.Distinct := by
  have alone := statementAlone_distinct (p := p) distinct rules script expanded s
  unfold statement
  dsimp only
  split
  · exact alone
  · split
    · exact child _ _ alone
    · exact alone

private theorem script_distinct (options : FlowOptions) (resolve : Resolver) (depth : Nat)
    (around : List String) (expanded : Bool) (ref : ScriptRef) (distinct : scope.Distinct) :
    (p.script options resolve depth around expanded ref scope).scope.Distinct := by
  induction depth generalizing around expanded ref scope with
  | zero => exact distinct
  | succ depth ih =>
    unfold script
    dsimp only
    split
    · exact distinct
    · split
      · exact distinct
      · refine Walked.foldl_keeps (P := Scope.Distinct) ?_ distinct
        intro s _ inner here
        exact statement_distinct here _ (fun ref inner => ih _ false ref) _ _ s

end Distinct

section Visits

variable {p : Place} {options : FlowOptions} {resolve : Resolver} {v w : Visit}

theorem scopeAfter_distinct (distinct : v.scope.Distinct) (ss : List Shell.Statement) :
    (p.scopeAfter options resolve v ss).Distinct :=
  Walked.foldl_keeps (P := Scope.Distinct)
    (fun s _ _ here => statement_distinct here _
      (fun ref _ => script_distinct options resolve _ _ false ref) _ _ s) distinct

private theorem childVisit_distinct {scope : Scope} (distinct : scope.Distinct)
    (s : Shell.Statement)
    (i : Shell.Invocation) : (p.childVisit options v scope s i).scope.Distinct := by
  have alone := statementAlone_distinct (p := p) distinct options.sinks v.ref v.expanded s
  unfold childVisit
  dsimp only
  split
  · exact alone
  · exact alone.exported

private theorem Visits.distinct (visits : p.Visits options resolve v w)
    (distinct : v.scope.Distinct) : w.scope.Distinct := by
  induction visits with
  | itself => exact distinct
  | invoked _ _ _ _ ih => exact ih (childVisit_distinct (scopeAfter_distinct distinct _) _ _)

theorem Reaches.distinct {cluster : Option Cluster} {volumes : List Volume} {c : Container}
    (reached : p.Reaches options resolve cluster volumes c v) : v.scope.Distinct := by
  obtain ⟨l, _, visits⟩ := reached
  have start := Scope.lasting_distinct.launchScope (p := p) options cluster volumes c
  refine visits.distinct ?_
  unfold launchVisit
  dsimp only
  split
  · exact start
  · exact start.exported

end Visits

end Place

end SecretFlow

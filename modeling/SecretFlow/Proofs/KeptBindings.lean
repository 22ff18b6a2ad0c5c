import SecretFlow.Flow.Build

set_option autoImplicit false
set_option relaxedAutoImplicit false

/-!
Bindings that are kept. What a name is bound to changes only where the name is set: no look-up, no
mount, no argument and no script without an assignment to the name does so, however scripts run each
other. Every statement of every script that is run is therefore walked with the binding in scope.
-/

namespace SecretFlow

namespace Scope

variable {s : Scope} {name other : String} {b c : Binding}

@[simp] theorem get?_bind_self : (s.bind name b).get? name = some b := by
  simp [get?, bind]

private theorem find?_filter_ne {α : Type} (vars : List (String × α)) (ne : other ≠ name) :
    (vars.filter (·.1 ≠ other)).find? (·.1 = name) = vars.find? (·.1 = name) := by
  rw [List.find?_filter]
  congr 1
  funext v
  by_cases same : v.1 = name
  · simp [same, ne.symm]
  · simp [same]

theorem get?_bind_of_ne (ne : other ≠ name) : (s.bind other c).get? name = s.get? name := by
  simp only [get?, bind, List.find?_cons, ne, decide_false, find?_filter_ne s.vars ne]

theorem get?_clear_of_ne (ne : other ≠ name) : (s.clear other).get? name = s.get? name := by
  simp only [get?, clear, find?_filter_ne s.vars ne]

theorem get?_exported (bound : s.get? name = some b) (exported : b.exported = true) :
    s.exported.get? name = some b := by
  obtain ⟨v, found, rfl⟩ := Option.map_eq_some_iff.mp bound
  obtain ⟨same, before, after, vars, others⟩ := List.find?_eq_some_iff_append.mp found
  refine Option.map_eq_some_iff.mpr ⟨v, List.find?_eq_some_iff_append.mpr ⟨same,
    before.filter (·.2.exported), after.filter (·.2.exported), ?_, ?_⟩, rfl⟩
  · simp [Scope.exported, vars, exported]
  · intro u hu
    exact others u (List.mem_filter.mp hu).1

end Scope

private theorem mem_addNames {names : List String} (more : List String) {name : String}
    (hname : name ∈ names) : name ∈ addNames names more := by
  refine List.foldlRecOn (motive := (name ∈ ·)) _ _ hname ?_
  intro all hall next _
  split
  · exact hall
  · exact List.mem_append_left _ hall

namespace Walked

variable {α : Type} {f : Scope → α → Walked} {parts : List α} {P : Scope → Prop} {w : Walked}

theorem foldl_keeps (keeps : ∀ part ∈ parts, ∀ scope, P scope → P (f scope part).scope)
    (start : P w.scope) : P (parts.foldl (andThen f) w).scope :=
  List.foldlRecOn (motive := fun v : Walked => P v.scope) _ _ start
    fun v here part hpart => keeps part hpart v.scope here

theorem steps_subset_foldl : w.steps ⊆ (parts.foldl (andThen f) w).steps :=
  List.foldlRecOn (motive := fun v : Walked => w.steps ⊆ v.steps) _ _ (List.Subset.refl _)
    fun _ here _ _ => List.Subset.trans here (List.subset_append_left _ _)

theorem exists_of_mem (keeps : ∀ part ∈ parts, ∀ scope, P scope → P (f scope part).scope)
    (start : P w.scope) {part : α} (hpart : part ∈ parts) :
    ∃ scope, P scope ∧ (f scope part).steps ⊆ (parts.foldl (andThen f) w).steps := by
  obtain ⟨before, after, rfl⟩ := List.append_of_mem hpart
  rw [List.foldl_append, List.foldl_cons]
  refine ⟨_, foldl_keeps (fun q hq => keeps q (List.mem_append_left _ hq)) start, ?_⟩
  exact List.Subset.trans (List.subset_append_right _ _)
    (steps_subset_foldl (w := andThen f (before.foldl (andThen f) w) part))

end Walked

namespace Place

variable {p : Place} {scope : Scope} {name : String} {b : Binding}

private theorem lookup_eq_of_bound (bound : scope.get? name = some b) :
    p.lookup scope name = { bindings := [b], scope } := by
  simp [lookup, bound]

private theorem lookup_keeps (bound : scope.get? name = some b) (query : String) :
    (p.lookup scope query).scope.get? name = some b := by
  unfold lookup
  split
  · exact bound
  · rename_i free
    have other : query ≠ name := by
      rintro rfl
      rw [bound] at free
      cases free
    split
    · exact bound
    · dsimp only
      split
      · exact bound
      · rw [Scope.get?_bind_of_ne other]
        exact bound

private theorem lookupAll_keeps (bound : scope.get? name = some b) (queries : List String) :
    (p.lookupAll scope queries).scope.get? name = some b :=
  List.foldlRecOn (motive := fun found : Found => found.scope.get? name = some b) _ _ bound
    fun _ here query _ => lookup_keeps here query

private theorem bindings_subset_foldl (queries : List String) (found : Found) :
    found.bindings ⊆ (queries.foldl p.lookupNext found).bindings :=
  List.foldlRecOn (motive := fun all : Found => found.bindings ⊆ all.bindings) _ _
    (List.Subset.refl _) fun _ here _ _ => List.Subset.trans here (List.subset_append_left _ _)

private theorem mem_lookupAll (bound : scope.get? name = some b) {queries : List String}
    (hname : name ∈ queries) : b ∈ (p.lookupAll scope queries).bindings := by
  obtain ⟨before, after, rfl⟩ := List.append_of_mem hname
  have here := lookupAll_keeps (p := p) bound before
  unfold lookupAll at here ⊢
  rw [List.foldl_append, List.foldl_cons]
  refine bindings_subset_foldl after _ (List.mem_append_right _ ?_)
  rw [lookup_eq_of_bound here]
  exact List.mem_singleton_self b

theorem mentioned_keeps (bound : scope.get? name = some b) (expanded : Bool)
    (s : Shell.Statement) : (p.mentioned expanded scope s).scope.get? name = some b :=
  lookupAll_keeps bound _

theorem mem_mentioned (bound : scope.get? name = some b) (expanded : Bool) {s : Shell.Statement}
    (uses : name ∈ s.variableNames) : b ∈ (p.mentioned expanded scope s).bindings := by
  refine List.mem_append_left _ (mem_lookupAll bound ?_)
  cases expanded with
  | false => exact uses
  | true => exact mem_addNames _ uses

end Place

def Shell.Statement.Assigns (s : Shell.Statement) (name : String) : Prop :=
  ∃ a, s.assignment = some a ∧ a.name = name

instance (s : Shell.Statement) (name : String) : Decidable (s.Assigns name) :=
  decidable_of_iff (∃ a ∈ s.assignment, a.name = name) Iff.rfl

namespace Place

variable {p : Place} {scope : Scope} {name : String} {b : Binding}

theorem statementAlone_keeps (bound : scope.get? name = some b) {s : Shell.Statement}
    (spares : ¬ s.Assigns name) (rules : List SinkRule) (script : ScriptRef) (expanded : Bool) :
    (p.statementAlone rules script expanded scope s).scope.get? name = some b := by
  have kept := mentioned_keeps (p := p) bound expanded s
  unfold statementAlone
  dsimp only
  split
  · rename_i a assigns
    have other : a.name ≠ name := fun same => spares ⟨a, assigns, same⟩
    unfold assign
    split
    · rw [Scope.get?_bind_of_ne other]
      exact kept
    · rw [Scope.get?_clear_of_ne other]
      exact kept
  · exact kept

private theorem statement_keeps (bound : scope.get? name = some b) {s : Shell.Statement}
    (spares : ¬ s.Assigns name) {walk : ScriptWalk} (rules : List SinkRule) (script : ScriptRef)
    (expanded : Bool)
    (child : ∀ i, s.invocation = some i → ∀ inner : Scope, inner.get? name = some b →
      (walk (p.scriptRef i.target (some script)) inner).scope.get? name = some b) :
    (p.statement rules walk script expanded scope s).scope.get? name = some b := by
  have kept := statementAlone_keeps (p := p) bound spares rules script expanded
  unfold statement
  dsimp only
  split
  · exact kept
  · rename_i i invokes
    split
    · exact child i invokes _ kept
    · exact kept

/-- Walking a script, with a number of levels to go and scripts around it, comes to walk a script
with a text: the script itself, or one that a statement of it runs. -/
inductive Expands (p : Place) (resolve : Resolver) :
    Nat → List String → ScriptRef → ScriptRef → String → Prop
  | itself {depth : Nat} {around : List String} {ref : ScriptRef} {text : String} :
      ref.key ∉ around → resolve ref = .ok text → Expands p resolve (depth + 1) around ref ref text
  | invoked {depth : Nat} {around : List String} {ref script : ScriptRef} {text inner : String}
      {s : Shell.Statement} {i : Shell.Invocation} : ref.key ∉ around → resolve ref = .ok text →
      s ∈ Shell.statements text → s.invocation = some i →
      Expands p resolve depth (ref.key :: around) (p.scriptRef i.target (some ref)) script inner →
      Expands p resolve (depth + 1) around ref script inner

variable {resolve : Resolver} {depth : Nat} {around : List String} {ref : ScriptRef}

def expansions (p : Place) (resolve : Resolver) :
    Nat → List String → ScriptRef → List (ScriptRef × String)
  | 0, _, _ => []
  | depth + 1, around, ref =>
      if ref.key ∈ around then []
      else
        match resolve ref with
        | .error _ => []
        | .ok text => (ref, text) :: (Shell.statements text).flatMap fun s =>
            match s.invocation with
            | none => []
            | some i =>
                expansions p resolve depth (ref.key :: around) (p.scriptRef i.target (some ref))

private theorem mem_expansions {script : ScriptRef} {text : String} :
    (script, text) ∈ p.expansions resolve depth around ref ↔
      p.Expands resolve depth around ref script text := by
  constructor
  · intro walked
    induction depth generalizing around ref with
    | zero => cases walked
    | succ depth ih =>
      unfold expansions at walked
      split at walked
      · cases walked
      · rename_i fresh
        split at walked
        · cases walked
        · rename_i whole resolved
          rcases List.mem_cons.mp walked with itself | invoked
          · obtain ⟨rfl, rfl⟩ := Prod.mk.inj itself
            exact .itself fresh resolved
          · obtain ⟨s, hs, below⟩ := List.mem_flatMap.mp invoked
            split at below
            · cases below
            · rename_i i invokes
              exact .invoked fresh resolved hs invokes (ih below)
  · intro expands
    induction expands with
    | itself fresh resolved => simp [expansions, fresh, resolved]
    | invoked fresh resolved hs invokes _ ih =>
      simp only [expansions, fresh, resolved, if_false, List.mem_cons, List.mem_flatMap]
      refine .inr ⟨_, hs, ?_⟩
      simpa only [invokes] using ih

def Spares (p : Place) (resolve : Resolver) (depth : Nat) (around : List String) (ref : ScriptRef)
    (name : String) : Prop :=
  ∀ script text, p.Expands resolve depth around ref script text →
    ∀ s ∈ Shell.statements text, ¬ s.Assigns name

private theorem Spares.invoked (spares : p.Spares resolve (depth + 1) around ref name)
    (fresh : ref.key ∉ around) {text : String} (resolved : resolve ref = .ok text)
    {s : Shell.Statement} (hs : s ∈ Shell.statements text) {i : Shell.Invocation}
    (invokes : s.invocation = some i) :
    p.Spares resolve depth (ref.key :: around) (p.scriptRef i.target (some ref)) name :=
  fun script inner expands => spares script inner (.invoked fresh resolved hs invokes expands)

theorem script_of_resolved (options : FlowOptions) (expanded : Bool) (fresh : ref.key ∉ around)
    {text : String} (resolved : resolve ref = .ok text) (scope : Scope) :
    p.script options resolve (depth + 1) around expanded ref scope =
      p.statements options.sinks (p.script options resolve depth (ref.key :: around) false) ref
        expanded scope (Shell.statements text) := by
  simp [script, fresh, resolved]

/-- Walking a script keeps the binding of a variable that no statement sets. -/
theorem script_keeps (options : FlowOptions) (expanded : Bool)
    (spares : p.Spares resolve depth around ref name) (bound : scope.get? name = some b) :
    (p.script options resolve depth around expanded ref scope).scope.get? name = some b := by
  induction depth generalizing around expanded ref scope with
  | zero => exact bound
  | succ depth ih =>
    unfold script
    dsimp only
    split
    · exact bound
    · rename_i fresh
      split
      · exact bound
      · rename_i text resolved
        have fresh : ref.key ∉ around := by simpa using fresh
        refine Walked.foldl_keeps (P := fun sc : Scope => sc.get? name = some b) ?_ bound
        intro s hs sc here
        refine statement_keeps here (spares _ _ (.itself fresh resolved) s hs) _ _ _ ?_
        intro i invokes inner
        exact ih false (spares.invoked fresh resolved hs invokes)

private theorem statement_keeps_of_spares (options : FlowOptions) (expanded : Bool)
    (spares : p.Spares resolve (depth + 1) around ref name) (fresh : ref.key ∉ around)
    {text : String} (resolved : resolve ref = .ok text) {s : Shell.Statement}
    (hs : s ∈ Shell.statements text) (scope : Scope) (bound : scope.get? name = some b) :
    (p.statement options.sinks (p.script options resolve depth (ref.key :: around) false) ref
      expanded scope s).scope.get? name = some b :=
  statement_keeps bound (spares _ _ (.itself fresh resolved) s hs) _ _ _
    fun _ invokes _ => script_keeps options false (spares.invoked fresh resolved hs invokes)

theorem steps_statementAlone_subset (p : Place) (rules : List SinkRule) (walk : ScriptWalk)
    (script : ScriptRef) (expanded : Bool) (scope : Scope) (s : Shell.Statement) :
    (p.statementAlone rules script expanded scope s).steps ⊆
      (p.statement rules walk script expanded scope s).steps := by
  unfold statement
  dsimp only
  split
  · exact List.Subset.refl _
  · split <;> exact List.subset_append_left _ _

private theorem exists_walk_subset (p : Place) (rules : List SinkRule) (walk : ScriptWalk)
    (script : ScriptRef) (expanded : Bool) (scope : Scope) {s : Shell.Statement}
    {i : Shell.Invocation} (invokes : s.invocation = some i) :
    ∃ inner, (inner = (p.statementAlone rules script expanded scope s).scope ∨
        inner = (p.statementAlone rules script expanded scope s).scope.exported) ∧
      (walk (p.scriptRef i.target (some script)) inner).steps ⊆
        (p.statement rules walk script expanded scope s).steps := by
  unfold statement
  simp only [invokes]
  split
  · exact ⟨_, .inl rfl, List.subset_append_right _ _⟩
  · exact ⟨_, .inr rfl, List.subset_append_right _ _⟩

private theorem Expands.exists_steps {script : ScriptRef} {text : String}
    (expands : p.Expands resolve depth around ref script text) (options : FlowOptions)
    (expanded : Bool) (spares : p.Spares resolve depth around ref name)
    (exported : b.exported = true) (bound : scope.get? name = some b) {s : Shell.Statement}
    (hs : s ∈ Shell.statements text) :
    ∃ inner whole, inner.get? name = some b ∧
      (p.statementAlone options.sinks script whole inner s).steps ⊆
        (p.script options resolve depth around expanded ref scope).steps := by
  induction expands generalizing expanded scope with
  | itself fresh resolved =>
    rw [script_of_resolved options expanded fresh resolved]
    obtain ⟨inner, here, taken⟩ := Walked.exists_of_mem
      (P := fun sc : Scope => sc.get? name = some b) (w := { scope })
      (fun t ht => statement_keeps_of_spares options expanded spares fresh resolved ht) bound hs
    exact ⟨inner, expanded, here,
      List.Subset.trans (steps_statementAlone_subset p _ _ _ _ inner s) taken⟩
  | @invoked depth around ref _ _ _ t i fresh resolved ht invokes _ ih =>
    rw [script_of_resolved options expanded fresh resolved]
    obtain ⟨outer, here, taken⟩ := Walked.exists_of_mem
      (P := fun sc : Scope => sc.get? name = some b) (w := { scope })
      (fun t ht => statement_keeps_of_spares options expanded spares fresh resolved ht) bound ht
    obtain ⟨seen, eq, walked⟩ := exists_walk_subset p options.sinks
      (p.script options resolve depth (ref.key :: around) false) ref expanded outer invokes
    have alone := statementAlone_keeps (p := p) here (spares _ _ (.itself fresh resolved) _ ht)
      options.sinks ref expanded
    -- an executed script sees only what is exported, which the binding is
    have seen_bound : seen.get? name = some b := by
      rcases eq with rfl | rfl
      · exact alone
      · exact Scope.get?_exported alone exported
    obtain ⟨inner, whole, hinner, sub⟩ :=
      ih false (spares.invoked fresh resolved ht invokes) seen_bound hs
    exact ⟨inner, whole, hinner, List.Subset.trans sub (List.Subset.trans walked taken)⟩

private theorem envVariable_keeps (options : FlowOptions) (bound : scope.get? name = some b)
    {e : EnvVariable} (other : e.name ≠ name) :
    (p.envVariable options scope e).scope.get? name = some b := by
  unfold envVariable
  dsimp only
  split
  · rw [Scope.get?_bind_of_ne other]
    exact bound
  · split
    · rw [Scope.get?_clear_of_ne other]
      exact lookupAll_keeps bound _
    · rw [Scope.get?_bind_of_ne other]
      exact lookupAll_keeps bound _
  · rw [Scope.get?_clear_of_ne other]
    exact bound

private theorem envVariable_binds (p : Place) (options : FlowOptions) (scope : Scope)
    {e : EnvVariable} {secret key : String} (source : e.source = .secretKey secret key) :
    (p.envVariable options scope e).scope.get? e.name =
      some (.toDeclaration (p.id s!"env:{e.name}")) := by
  simp [envVariable, source]

private theorem volumeMount_keeps (volumes : List Volume) (bound : scope.get? name = some b)
    (m : VolumeMount) : (p.volumeMount volumes scope m).scope.get? name = some b := by
  unfold volumeMount
  split
  · dsimp only
    split <;> exact bound
  · exact bound

theorem arguments_keeps (bound : scope.get? name = some b) (c : Container) :
    (p.arguments scope c).1.scope.get? name = some b := by
  refine List.foldlRecOn (motive := fun w : Walked × List NodeId => w.1.scope.get? name = some b)
    _ _ bound ?_
  intro w here arg _
  unfold argument
  dsimp only
  split <;> exact lookupAll_keeps here _

private theorem launch_subset_argv (p : Place) (options : FlowOptions) (resolve : Resolver)
    (scope : Scope) {c : Container} {l : Launch} (hl : l ∈ p.launches c) :
    p.launch options resolve (p.arguments scope c).1.scope l ⊆ p.argv options resolve scope c := by
  unfold argv
  split
  · rename_i none
    -- a container that runs nothing launches nothing
    simp [launches, none, inlineIndex?, launched] at hl
  · intro step hstep
    exact List.mem_append_right _ (List.mem_flatMap.mpr ⟨l, hl, hstep⟩)

/-- A container comes to run a script with a text: one that it launches, or one that a statement of
such a script runs. -/
def Runs (p : Place) (options : FlowOptions) (resolve : Resolver) (c : Container)
    (script : ScriptRef) (text : String) : Prop :=
  ∃ l ∈ p.launches c, p.Expands resolve options.maxReferenceDepth [] l.ref script text

def NeverSets (p : Place) (options : FlowOptions) (resolve : Resolver) (c : Container)
    (name : String) : Prop :=
  ∀ script text, p.Runs options resolve c script text →
    ∀ s ∈ Shell.statements text, ¬ s.Assigns name

section Runs

variable {options : FlowOptions} {c : Container} {script : ScriptRef} {text : String}
  {s : Shell.Statement}

instance : Decidable (p.Runs options resolve c script text) :=
  decidable_of_iff (∃ l ∈ p.launches c,
      (script, text) ∈ p.expansions resolve options.maxReferenceDepth [] l.ref) <| by
    simp only [mem_expansions, Runs]

instance : Decidable (p.NeverSets options resolve c name) :=
  decidable_of_iff (∀ l ∈ p.launches c, ∀ x ∈ p.expansions resolve options.maxReferenceDepth [] l.ref,
      ∀ s ∈ Shell.statements x.2, ¬ s.Assigns name) <| by
    simp only [NeverSets, Runs, Prod.forall, mem_expansions]
    exact ⟨fun all script text ⟨l, hl, expands⟩ => all l hl script text expands,
      fun all l hl script text expands => all script text ⟨l, hl, expands⟩⟩

private theorem Runs.exists_steps_argv (runs : p.Runs options resolve c script text)
    (unset : p.NeverSets options resolve c name) (exported : b.exported = true)
    (bound : scope.get? name = some b) (hs : s ∈ Shell.statements text) :
    ∃ inner whole, inner.get? name = some b ∧
      (p.statementAlone options.sinks script whole inner s).steps ⊆
        p.argv options resolve scope c := by
  obtain ⟨l, hl, expands⟩ := runs
  have kept := arguments_keeps (p := p) bound c
  have launched : (if l.inline then (p.arguments scope c).1.scope
      else (p.arguments scope c).1.scope.exported).get? name = some b := by
    split
    · exact kept
    · exact Scope.get?_exported kept exported
  obtain ⟨inner, whole, here, taken⟩ := expands.exists_steps options l.inline
    (fun script text expands => unset script text ⟨l, hl, expands⟩) exported launched hs
  exact ⟨inner, whole, here, List.Subset.trans taken (launch_subset_argv p options resolve scope hl)⟩

end Runs

end Place

/-- A variable of the environment is taken from a key of a secret, and no later entry sets it. -/
structure Container.TakesSecret (c : Container) (e : EnvVariable) : Prop where
  last : ∃ before after, c.env = before ++ e :: after ∧ ∀ later ∈ after, later.name ≠ e.name
  source : ∃ secret key, e.source = .secretKey secret key

namespace Container.TakesSecret

variable {c : Container} {e : EnvVariable}

theorem mem_env (takes : c.TakesSecret e) : e ∈ c.env := by
  obtain ⟨before, after, env, _⟩ := takes.last
  rw [env]
  exact List.mem_append_right _ List.mem_cons_self

private theorem get?_env (takes : c.TakesSecret e) (p : Place) (options : FlowOptions)
    (w : Walked) : (c.env.foldl (Walked.andThen (p.envVariable options)) w).scope.get? e.name =
      some (.toDeclaration (p.id s!"env:{e.name}")) := by
  obtain ⟨before, after, env, last⟩ := takes.last
  obtain ⟨secret, key, source⟩ := takes.source
  rw [env, List.foldl_append, List.foldl_cons]
  refine Walked.foldl_keeps (P := fun sc : Scope =>
    sc.get? e.name = some (.toDeclaration (p.id s!"env:{e.name}"))) ?_
    (Place.envVariable_binds p options _ source)
  intro later hlater sc here
  exact Place.envVariable_keeps options here (last later hlater)

theorem get?_mounted (takes : c.TakesSecret e) (p : Place) (options : FlowOptions)
    (volumes : List Volume) (w : Walked) :
    (c.mounts.foldl (Walked.andThen (p.volumeMount volumes))
      (c.env.foldl (Walked.andThen (p.envVariable options)) w)).scope.get? e.name =
      some (.toDeclaration (p.id s!"env:{e.name}")) :=
  Walked.foldl_keeps
    (P := fun sc : Scope => sc.get? e.name = some (.toDeclaration (p.id s!"env:{e.name}")))
    (fun m _ _ here => Place.volumeMount_keeps volumes here m) (takes.get?_env p options w)

theorem exists_steps (takes : c.TakesSecret e) {file : String} {volumes : List Volume}
    {options : FlowOptions} {resolve : Resolver}
    (unset : (Place.ofContainer file volumes c).NeverSets options resolve c e.name)
    {script : ScriptRef} {text : String}
    (runs : (Place.ofContainer file volumes c).Runs options resolve c script text)
    {s : Shell.Statement} (hs : s ∈ Shell.statements text) (cluster : Option Cluster) :
    ∃ inner whole, inner.get? e.name =
        some (.toDeclaration ((Place.ofContainer file volumes c).id s!"env:{e.name}")) ∧
      ((Place.ofContainer file volumes c).statementAlone options.sinks script whole inner s).steps ⊆
        Place.container file options cluster resolve volumes c := by
  let p := Place.ofContainer file volumes c
  have mounted := takes.get?_mounted p options volumes
    (c.envFrom.foldl (Walked.andThen (p.envImport cluster)) { scope := {} })
  obtain ⟨inner, whole, here, taken⟩ := runs.exists_steps_argv unset rfl mounted hs
  exact ⟨inner, whole, here, List.Subset.trans taken (List.subset_append_right _ _)⟩

end Container.TakesSecret

end SecretFlow

import SecretFlow.Proofs.InlineStatements

set_option autoImplicit false
set_option relaxedAutoImplicit false

/-!
Clean names. A name that was set to something without a secret is noted as clean, and it stays clean
until it is set again or a script is read into the shell: look-ups of other names, statements that
run a script in a process of its own, mounts and arguments do not change that. In particular no
secret whose keys are not known can give the name a value. So a statement that mentions nothing but
a clean name uses no secret.
-/

namespace SecretFlow

namespace Scope

variable {s : Scope} {name : String}

/-- A name may hold a secret: it is bound, or nothing is known about it and a secret whose keys are
not known may be where it comes from. -/
def MayHold (s : Scope) (name : String) : Prop :=
  (s.get? name).isSome = true ∨
    name ∉ s.clean ∧ isProvided name = false ∧ ∃ u ∈ s.unknown, u.1.toList <+: name.toList

instance (s : Scope) (name : String) : Decidable (s.MayHold name) :=
  inferInstanceAs (Decidable (_ ∨ _ ∧ _ ∧ ∃ u ∈ s.unknown, _))

structure IsClean (s : Scope) (name : String) : Prop where
  unbound : s.get? name = none
  noted : name ∈ s.clean

private theorem IsClean.not_mayHold (clean : s.IsClean name) : ¬ s.MayHold name := by
  rintro (bound | ⟨unknown, -⟩)
  · rw [clean.unbound] at bound
    cases bound
  · exact unknown clean.noted

private theorem isClean_clear (s : Scope) (name : String) : (s.clear name).IsClean name where
  unbound := by
    refine Option.map_eq_none_iff.mpr (List.find?_eq_none.mpr ?_)
    intro var hvar
    exact by simpa using (List.mem_filter.mp hvar).2
  noted := List.mem_cons_self

private theorem IsClean.bind (clean : s.IsClean name) {other : String} (ne : other ≠ name)
    (b : Binding) : (s.bind other b).IsClean name where
  unbound := (get?_bind_of_ne ne).trans clean.unbound
  noted := List.mem_filter.mpr ⟨clean.noted, by simpa using ne.symm⟩

private theorem IsClean.clear (clean : s.IsClean name) (other : String) :
    (s.clear other).IsClean name := by
  by_cases same : other = name
  · rw [same]
    exact isClean_clear s name
  · exact ⟨(get?_clear_of_ne same).trans clean.unbound,
      List.mem_cons_of_mem _ (List.mem_filter.mpr ⟨clean.noted, by simpa using Ne.symm same⟩)⟩

end Scope

def Shell.Statement.Sources (s : Shell.Statement) : Prop :=
  ∃ i, s.invocation = some i ∧ i.mode = .source

instance (s : Shell.Statement) : Decidable s.Sources :=
  decidable_of_iff (∃ i ∈ s.invocation, i.mode = .source) Iff.rfl

/-- All that a statement says, with its here-document. -/
def Shell.Statement.written (s : Shell.Statement) : String :=
  match s.body with
  | some body => s.text ++ "\n" ++ body
  | none => s.text

/-- A container sees a secret below a path, which is written without slashes at its end. -/
def Container.MountsSecret (c : Container) (volumes : List Volume) (path : List Char) : Prop :=
  ∃ m ∈ c.mounts,
    (∃ secret items, (volume? volumes m.name).map Volume.source = some (.secret secret items)) ∧
      path = Text.dropRepeatedEnd '/' m.mountPath.toList ∧ path ≠ []

private theorem addNames_subset {names more : List String} :
    addNames names more ⊆ names ++ more := by
  refine List.foldlRecOn (motive := (· ⊆ names ++ more)) _ _ (List.subset_append_left _ _) ?_
  intro all here name hname
  split
  · exact here
  · exact List.append_subset.mpr ⟨here, by simpa using .inr hname⟩

namespace Place

section Lookups

variable {p : Place} {scope : Scope} {name : String}

private theorem lookup_of_not_mayHold (p : Place) (not : ¬ scope.MayHold name) :
    p.lookup scope name = { scope } := by
  unfold Scope.MayHold at not
  simp only [not_or, not_and, not_exists] at not
  obtain ⟨unbound, unknown⟩ := not
  unfold lookup
  split
  · rename_i b bound
    exact absurd (by rw [bound]; rfl) unbound
  · split
    · rfl
    · rename_i known
      simp only [Bool.or_eq_true, List.contains_iff_mem, not_or, Bool.not_eq_true] at known
      dsimp only
      rw [if_pos]
      rw [List.isEmpty_iff, List.filter_eq_nil_iff]
      intro u hu start
      exact unknown known.1 known.2 u hu (List.isPrefixOf_iff_prefix.mp start)

private theorem lookupAll_of_not_mayHold (p : Place) {names : List String}
    (none : ∀ name ∈ names, ¬ scope.MayHold name) : p.lookupAll scope names = { scope } := by
  unfold lookupAll
  induction names with
  | nil => rfl
  | cons first rest ih =>
    obtain ⟨here, later⟩ := List.forall_mem_cons.mp none
    rw [List.foldl_cons, lookupNext, p.lookup_of_not_mayHold here]
    exact ih later

private theorem isClean_lookup (clean : scope.IsClean name) (query : String) :
    (p.lookup scope query).scope.IsClean name := by
  by_cases may : scope.MayHold query
  · have other : query ≠ name := by
      rintro rfl
      exact clean.not_mayHold may
    unfold lookup
    split
    · exact clean
    · split
      · exact clean
      · dsimp only
        split
        · exact clean
        · exact clean.bind other _
  · rw [p.lookup_of_not_mayHold may]
    exact clean

private theorem isClean_lookupAll (clean : scope.IsClean name) (queries : List String) :
    (p.lookupAll scope queries).scope.IsClean name :=
  List.foldlRecOn (motive := fun found : Found => found.scope.IsClean name) _ _ clean
    fun _ here query _ => isClean_lookup here query

end Lookups

/-! ### Statements -/

section Statements

variable {p : Place} {options : FlowOptions} {resolve : Resolver} {v : Visit} {scope : Scope}
  {name : String} {s : Shell.Statement}

private theorem scope_statementOn (reads : ¬ s.Sources) :
    (p.statementOn options resolve v scope s).scope =
      (p.statementAlone options.sinks v.ref v.expanded scope s).scope := by
  unfold statementOn statement
  dsimp only
  split
  · rfl
  · rename_i i invokes
    split
    · rename_i mode
      exact absurd ⟨i, invokes, mode⟩ reads
    · rfl

private theorem isClean_statementOn (clean : scope.IsClean name) (unset : ¬ s.Assigns name)
    (reads : ¬ s.Sources) : (p.statementOn options resolve v scope s).scope.IsClean name := by
  have looked : (p.mentioned v.expanded scope s).scope.IsClean name := isClean_lookupAll clean _
  rw [scope_statementOn reads]
  unfold statementAlone
  dsimp only
  split
  · rename_i a assigns
    have other : a.name ≠ name := fun same => unset ⟨a, assigns, same⟩
    unfold assign
    split
    · exact looked.bind other _
    · exact looked.clear _
  · exact looked

private theorem isClean_of_assigns (assigns : s.Assigns name)
    (nothing : (p.mentioned v.expanded scope s).bindings = []) (reads : ¬ s.Sources) :
    (p.statementOn options resolve v scope s).scope.IsClean name := by
  obtain ⟨a, assignment, rfl⟩ := assigns
  rw [scope_statementOn reads]
  unfold statementAlone assign
  simp only [assignment, nothing, List.isEmpty_nil, Bool.not_true, Bool.false_eq_true, if_false]
  exact Scope.isClean_clear _ _

private theorem isClean_scopeAfter_append {before more : List Shell.Statement}
    (clean : (p.scopeAfter options resolve v before).IsClean name)
    (unset : ∀ s ∈ more, ¬ s.Assigns name) (reads : ∀ s ∈ more, ¬ s.Sources) :
    (p.scopeAfter options resolve v (before ++ more)).IsClean name := by
  unfold scopeAfter
  rw [statementsOn_append]
  exact Walked.foldl_keeps (P := fun scope => scope.IsClean name)
    (fun s hs _ here => isClean_statementOn here (unset s hs) (reads s hs)) clean

private theorem mentioned_eq_nil
    (names : ∀ name ∈ s.variableNames ++ Shell.argumentVariables s.text,
      ¬ scope.MayHold name)
    (paths : ∀ mount ∈ scope.mounts, Text.occurs mount.1.toList s.written.toList = false)
    (expanded : Bool) : (p.mentioned expanded scope s).bindings = [] := by
  obtain ⟨queries, known, found⟩ : ∃ queries, queries ⊆ s.variableNames ++
      Shell.argumentVariables s.text ∧
      p.mentioned expanded scope s = p.references scope queries s.written := by
    cases expanded with
    | false => exact ⟨s.variableNames, List.subset_append_left _ _, rfl⟩
    | true => exact ⟨addNames s.variableNames (Shell.argumentVariables s.text), addNames_subset, rfl⟩
  have nothing := p.lookupAll_of_not_mayHold fun name hname => names name (known hname)
  rw [found, references, nothing]
  dsimp only
  rw [List.nil_append, List.map_eq_nil_iff, List.filter_eq_nil_iff]
  intro mount hmount
  rw [paths mount hmount]
  exact Bool.false_ne_true

end Statements

/-! ### The environment -/

section Environment

variable {p : Place} {options : FlowOptions} {scope : Scope} {name : String}

/-- A variable of the environment is set to something without a secret. -/
def SetsClean (scope : Scope) (e : EnvVariable) : Prop :=
  match e.source with
  | .secretKey _ _ => False
  | .literal value => ∀ name ∈ Shell.argumentVariables value, ¬ scope.MayHold name
  | .configMapKey _ _ | .downward | .empty => True

private theorem isClean_of_setsClean {e : EnvVariable} (sets : SetsClean scope e) :
    (p.envVariable options scope e).scope.IsClean e.name := by
  unfold SetsClean at sets
  unfold envVariable
  dsimp only
  split at sets
  · exact sets.elim
  · rename_i source
    rw [source]
    dsimp only
    rw [p.lookupAll_of_not_mayHold sets]
    exact Scope.isClean_clear _ _
  all_goals
    rename_i source
    rw [source]
    exact Scope.isClean_clear _ _

private theorem isClean_envVariable (clean : scope.IsClean name) {e : EnvVariable}
    (other : e.name ≠ name) : (p.envVariable options scope e).scope.IsClean name := by
  unfold envVariable
  dsimp only
  split
  · exact clean.bind other _
  · split
    · exact (isClean_lookupAll clean _).clear _
    · exact (isClean_lookupAll clean _).bind other _
  · exact clean.clear _

private theorem isClean_volumeMount (clean : scope.IsClean name) (volumes : List Volume)
    (m : VolumeMount) : (p.volumeMount volumes scope m).scope.IsClean name := by
  unfold volumeMount
  split
  · dsimp only
    split
    · exact clean
    · exact ⟨clean.unbound, clean.noted⟩
  · exact clean

private theorem isClean_arguments (clean : scope.IsClean name) (c : Container) :
    (p.arguments scope c).1.scope.IsClean name := by
  refine List.foldlRecOn (motive := fun w : Walked × List NodeId => w.1.scope.IsClean name)
    _ _ clean ?_
  intro w here arg _
  unfold argument
  dsimp only
  split <;> exact isClean_lookupAll here _

def envScope (p : Place) (options : FlowOptions) (cluster : Option Cluster) (c : Container)
    (first : List EnvVariable) : Scope :=
  (first.foldl (Walked.andThen (p.envVariable options))
    (c.envFrom.foldl (Walked.andThen (p.envImport cluster)) { scope := {} })).scope

private theorem isClean_launchScope {c : Container} {first later : List EnvVariable}
    {e : EnvVariable} (split : c.env = first ++ e :: later) {cluster : Option Cluster}
    (sets : SetsClean (p.envScope options cluster c first) e)
    (last : ∀ d ∈ later, d.name ≠ e.name) (volumes : List Volume) :
    (p.launchScope options cluster volumes c).IsClean e.name := by
  refine isClean_arguments ?_ c
  refine Walked.foldl_keeps (P := fun scope => scope.IsClean e.name)
    (fun m _ _ here => isClean_volumeMount here volumes m) ?_
  rw [split, List.foldl_append, List.foldl_cons]
  exact Walked.foldl_keeps (P := fun scope => scope.IsClean e.name)
    (fun d hd _ here => isClean_envVariable here (last d hd)) (isClean_of_setsClean sets)

end Environment

/-! ### Mounted paths -/

section Mounts

private theorem mounts_statementAlone (p : Place) (rules : List SinkRule) (script : ScriptRef)
    (expanded : Bool) (scope : Scope) (s : Shell.Statement) :
    (p.statementAlone rules script expanded scope s).scope.mounts = scope.mounts := by
  have looked : (p.mentioned expanded scope s).scope.mounts = scope.mounts :=
    (Scope.stable_mounts _).mentioned rfl expanded s
  unfold statementAlone assign
  dsimp only
  split
  · split <;> exact looked
  · exact looked

private theorem mounts_statement (p : Place) (rules : List SinkRule) {walk : ScriptWalk}
    (child : ∀ ref inner, (walk ref inner).scope.mounts = inner.mounts) (script : ScriptRef)
    (expanded : Bool) (scope : Scope) (s : Shell.Statement) :
    (p.statement rules walk script expanded scope s).scope.mounts = scope.mounts := by
  have alone := p.mounts_statementAlone rules script expanded scope s
  unfold statement
  dsimp only
  split
  · exact alone
  · split
    · exact (child _ _).trans alone
    · exact alone

private theorem mounts_script (p : Place) (options : FlowOptions) (resolve : Resolver) (depth : Nat)
    (around : List String) (expanded : Bool) (ref : ScriptRef) (scope : Scope) :
    (p.script options resolve depth around expanded ref scope).scope.mounts = scope.mounts := by
  induction depth generalizing around expanded ref scope with
  | zero => rfl
  | succ depth ih =>
    unfold script
    dsimp only
    split
    · rfl
    · split
      · rfl
      · refine Walked.foldl_keeps (P := fun inner => inner.mounts = scope.mounts) ?_ rfl
        intro s _ inner here
        exact (p.mounts_statement options.sinks (ih _ _) ref expanded inner s).trans here

private theorem mounts_scopeAfter (p : Place) (options : FlowOptions) (resolve : Resolver)
    (v : Visit) (ss : List Shell.Statement) :
    (p.scopeAfter options resolve v ss).mounts = v.scope.mounts := by
  refine Walked.foldl_keeps (P := fun inner => inner.mounts = v.scope.mounts) ?_ rfl
  intro s _ inner here
  exact (p.mounts_statement options.sinks (p.mounts_script options resolve _ _ _) _ _ inner s).trans
    here

private theorem mountsSecret_of_mem (p : Place) (c : Container) (volumes : List Volume)
    (options : FlowOptions) (cluster : Option Cluster) :
    ∀ mount ∈ (p.launchScope options cluster volumes c).mounts,
      c.MountsSecret volumes mount.1.toList := by
  unfold launchScope
  dsimp only
  rw [(Scope.stable_mounts _).arguments rfl c]
  refine Walked.foldl_keeps (P := fun scope => ∀ mount ∈ scope.mounts,
    c.MountsSecret volumes mount.1.toList) ?_ ?_
  · intro m hm scope here
    unfold volumeMount
    split
    · rename_i secret items source
      dsimp only
      split
      · exact here
      · rename_i nonempty
        intro mount hmount
        rcases List.mem_append.mp hmount with old | new
        · exact here mount old
        · obtain rfl := List.mem_singleton.mp new
          rw [String.toList_ofList]
          exact ⟨m, hm, ⟨secret, items, source⟩, rfl, by simpa using nonempty⟩
    · exact here
  · have none : (p.envScope options cluster c c.env).mounts = [] :=
      (Scope.stable_mounts []).environment options cluster c rfl
    intro mount hmount
    exact absurd (none ▸ hmount) List.not_mem_nil

end Mounts

end Place

namespace Manifest

/-- The latest event for a name before a statement of the text that a container runs is clean.
Either the last statement to set the name has no node in the flow graph, and from it on no script is
read into the shell; or no statement sets the name or reads a script into the shell, and the last
variable of the environment under the name is set to something without a secret. -/
inductive LatestClean (m : Manifest) (options : FlowOptions) (cluster : Option Cluster)
    (resolve : Resolver) (pod : PodSpec) (c : Container) (text name : String) :
    List Shell.Statement → Prop
  | assigned {earlier later : List Shell.Statement} {t : Shell.Statement} (assigns : t.Assigns name)
      (unused : ¬ (m.flowGraph options cluster resolve).HasStatement
        ((m.place pod c).statementId (.inline c.name text) t))
      (last : ∀ u ∈ later, ¬ u.Assigns name) (reads : ∀ u ∈ t :: later, ¬ u.Sources) :
      LatestClean m options cluster resolve pod c text name (earlier ++ t :: later)
  | environment {before : List Shell.Statement} {first later : List EnvVariable} {e : EnvVariable}
      (unset : ∀ u ∈ before, ¬ u.Assigns name) (reads : ∀ u ∈ before, ¬ u.Sources)
      (split : c.env = first ++ e :: later) (named : e.name = name)
      (last : ∀ d ∈ later, d.name ≠ name)
      (sets : Place.SetsClean ((m.place pod c).envScope options cluster c first) e) :
      LatestClean m options cluster resolve pod c text name before

section Clean

variable {m : Manifest} {options : FlowOptions} {cluster : Option Cluster} {resolve : Resolver}
  {pod : PodSpec} {c : Container} {text name : String} {before after : List Shell.Statement}
  {s : Shell.Statement}

private theorem LatestClean.isClean
    (clean : m.LatestClean options cluster resolve pod c text name before)
    (inline : m.RunsInline resolve pod c text)
    (split : Shell.statements text = before ++ s :: after) (level : options.maxReferenceDepth ≠ 0) :
    (m.inlineScope options cluster resolve pod c text before).IsClean name := by
  cases clean with
  | assigned assigns unused last reads =>
    rename_i earlier later t
    rw [List.append_assoc, List.cons_append] at split
    rw [inline.hasStatement_iff split, not_and_or, not_not, not_not] at unused
    have nothing := unused.resolve_left level
    obtain ⟨here, later⟩ := List.forall_mem_cons.mp reads
    rw [List.append_cons]
    refine Place.isClean_scopeAfter_append ?_ last later
    rw [Place.scopeAfter_concat]
    exact Place.isClean_of_assigns assigns nothing here
  | environment unset reads parts named last sets =>
    subst named
    have start : (m.inlineScope options cluster resolve pod c text []).IsClean _ :=
      Place.isClean_launchScope parts sets last pod.volumes
    exact Place.isClean_scopeAfter_append start unset reads

private theorem LatestClean.mentions_nothing
    (clean : m.LatestClean options cluster resolve pod c text name before)
    (inline : m.RunsInline resolve pod c text)
    (split : Shell.statements text = before ++ s :: after) (level : options.maxReferenceDepth ≠ 0)
    (names : ∀ other ∈ s.variableNames ++ Shell.argumentVariables s.text, other = name)
    (paths : ∀ path, c.MountsSecret pod.volumes path → Text.occurs path s.written.toList = false) :
    ((m.place pod c).mentioned true
      (m.inlineScope options cluster resolve pod c text before) s).bindings = [] := by
  refine Place.mentioned_eq_nil ?_ ?_ true
  · intro other mentioned
    rw [names other mentioned]
    exact (clean.isClean inline split level).not_mayHold
  · intro mount hmount
    rw [Place.mounts_scopeAfter] at hmount
    exact paths _ ((m.place pod c).mountsSecret_of_mem c pod.volumes options cluster mount hmount)

end Clean

/-- A clean override stops the flow of a secret. Let a container run a text in a shell, and let the
latest event for a name before a statement of the text be clean, whatever the name was bound to
earlier and whatever secrets with unknown keys the container imports. If the statement mentions no
variable but that one and no path at which a secret is mounted, it has no node in the flow graph,
and no edge leads to its sink. The sink itself is there if the statement is one. -/
theorem clean_override_stops_flow (m : Manifest) (options : FlowOptions) (cluster : Option Cluster)
    (resolve : Resolver) {pod : PodSpec} {c : Container} {text : String}
    (inline : m.RunsInline resolve pod c text) {before after : List Shell.Statement}
    {s : Shell.Statement} (split : Shell.statements text = before ++ s :: after) {name : String}
    (clean : m.LatestClean options cluster resolve pod c text name before)
    (names : ∀ other ∈ s.variableNames ++ Shell.argumentVariables s.text, other = name)
    (paths : ∀ path, c.MountsSecret pod.volumes path → Text.occurs path s.written.toList = false) :
    let g := m.flowGraph options cluster resolve
    let id := (m.place pod c).statementId (.inline c.name text) s
    ¬ g.HasStatement id ∧ (∀ e ∈ g.edges, e.target ≠ s!"{id}:sink") ∧
      (options.maxReferenceDepth ≠ 0 → ∀ pattern, Place.sinkOf? options.sinks s = some pattern →
        ∃ n ∈ g.nodes, n.kind.isSink = true ∧ n.id = s!"{id}:sink") := by
  intro g id
  have nothing (level : options.maxReferenceDepth ≠ 0) :=
    clean.mentions_nothing inline split level names paths
  refine ⟨?_, ?_, ?_⟩
  · rw [inline.hasStatement_iff split]
    rintro ⟨level, something⟩
    exact something (nothing level)
  · intro e he target
    obtain ⟨level, something⟩ := inline.mentions_of_edge split he target
    exact something (nothing level)
  · intro level pattern sink
    exact inline.exists_sink split level sink

end Manifest

def resetScript : String :=
  "echo $TOKEN\nTOKEN=none\n./child.sh\necho $TOKEN"

/-- A container that runs the script with a variable from a secret. It has a second secret mounted,
and imports a third one whose keys may give it the same variable. -/
def Container.resetting : Container :=
  { Container.shell [⟨"TOKEN", .secretKey "api" "token", "env[0]"⟩] resetScript with
    envFrom := [⟨.secret "db", "TO", "envFrom[0]"⟩]
    mounts := [⟨"creds", "/etc/creds/", none, "volumeMounts[0]"⟩] }

def Container.overriding : Container :=
  { Container.shell [⟨"TOKEN", .secretKey "api" "token", "env[0]"⟩,
      ⟨"MODE", .literal "fast", "env[1]"⟩, ⟨"TOKEN", .literal "$(MODE)", "env[2]"⟩] "echo $TOKEN" with
    name := "side"
    envFrom := [⟨.secret "db", "TO", "envFrom[0]"⟩] }

def PodSpec.cleaning : PodSpec where
  field := "spec"
  containers := [.resetting, .overriding]
  volumes := [⟨"creds", .secret "creds" [], "volumes[0]"⟩]

namespace Shell.Statement

def printing (line : Nat) : Statement :=
  ⟨line, 0, "echo $TOKEN", none, ["TOKEN"], none, none⟩

def setting : Statement :=
  ⟨2, 0, "TOKEN=none", none, [], some ⟨"TOKEN", false⟩, none⟩

def executing : Statement :=
  ⟨3, 0, "./child.sh", none, [], none, some ⟨"./child.sh", .execute⟩⟩

private theorem statements_resetScript :
    statements resetScript = [printing 1, setting, executing, printing 4] := by
  decide +kernel

private theorem eq_of_mem_printing (line : Nat) :
    ∀ name ∈ (printing line).variableNames ++ argumentVariables (printing line).text,
      name = "TOKEN" := by
  show ∀ name ∈ ["TOKEN"] ++ argumentVariables "echo $TOKEN", name = "TOKEN"
  decide +kernel

end Shell.Statement

namespace Manifest

open Shell.Statement

def cleaning : Manifest :=
  { shellPod [] "" with body := .workload .cleaning }

def cleaningScripts : Resolver :=
  .ofTable [("file:./child.sh", "echo $TOKEN")]

private theorem runsInline_cleaning {c : Container} (among : c ∈ PodSpec.cleaning.containers)
    {text : String}
    (runs : c.RunsText text) : cleaning.RunsInline cleaningScripts .cleaning c text where
  workload := rfl
  plain := by
    rintro pod ⟨⟩
    decide +kernel
  distinct := by decide +kernel
  among := among
  runs := runs
  reads _ _ := rfl

private theorem runsInline_resetting :
    cleaning.RunsInline cleaningScripts .cleaning .resetting resetScript :=
  runsInline_cleaning List.mem_cons_self (by decide +kernel)

private theorem latestClean_resetting :
    cleaning.LatestClean .echoing none cleaningScripts .cleaning .resetting
    resetScript "TOKEN" ([printing 1] ++ setting :: [executing]) := by
  refine .assigned ⟨_, rfl, rfl⟩ ?_ (by decide +kernel) (by decide +kernel)
  have split : Shell.statements resetScript = [printing 1] ++ setting :: [executing, printing 4] :=
    statements_resetScript
  rw [runsInline_resetting.hasStatement_iff split]
  decide +kernel

private theorem latestClean_overriding :
    cleaning.LatestClean .echoing none cleaningScripts .cleaning
    .overriding "echo $TOKEN" "TOKEN" [] := by
  have parts : Container.overriding.env = [⟨"TOKEN", .secretKey "api" "token", "env[0]"⟩,
      ⟨"MODE", .literal "fast", "env[1]"⟩] ++ ⟨"TOKEN", .literal "$(MODE)", "env[2]"⟩ :: [] := rfl
  refine .environment (List.forall_mem_nil _) (List.forall_mem_nil _) parts rfl
    (List.forall_mem_nil _) ?_
  show ∀ name ∈ Shell.argumentVariables "$(MODE)", ¬ Scope.MayHold _ name
  decide +kernel

/-- The first use of the variable has a node; the uses after it is set anew do not, and no edge
leads to their sinks. -/
theorem clean_override_stops_flow_cleaning :
    let g := cleaning.flowGraph .echoing none cleaningScripts
    g.HasStatement "c:app:inline:app:1.0" ∧
    (¬ g.HasStatement "c:app:inline:app:4.0" ∧
      ∀ e ∈ g.edges, e.target ≠ "c:app:inline:app:4.0:sink") ∧
    (¬ g.HasStatement "c:side:inline:side:1.0" ∧
      ∀ e ∈ g.edges, e.target ≠ "c:side:inline:side:1.0:sink") := by
  intro g
  refine ⟨?_, ?_, ?_⟩
  · have split : Shell.statements resetScript =
        [] ++ printing 1 :: [setting, executing, printing 4] := statements_resetScript
    have id : (cleaning.place .cleaning .resetting).statementId (.inline "app" resetScript)
        (printing 1) = "c:app:inline:app:1.0" := by decide +kernel
    rw [← id]
    exact (runsInline_resetting.hasStatement_iff split).mpr ⟨by decide, by decide +kernel⟩
  · have split : Shell.statements resetScript =
        ([printing 1] ++ setting :: [executing]) ++ printing 4 :: [] := statements_resetScript
    have paths : ∀ path, Container.resetting.MountsSecret PodSpec.cleaning.volumes path →
        Text.occurs path (printing 4).written.toList = false := by
      rintro path ⟨mount, among, -, rfl, -⟩
      obtain rfl := List.mem_singleton.mp among
      decide +kernel
    have id : (cleaning.place .cleaning .resetting).statementId (.inline "app" resetScript)
        (printing 4) = "c:app:inline:app:4.0" := by decide +kernel
    obtain ⟨unused, sink, -⟩ := clean_override_stops_flow cleaning .echoing none cleaningScripts
      runsInline_resetting split latestClean_resetting (eq_of_mem_printing 4) paths
    rw [← id]
    refine ⟨unused, fun e he target => sink e he (target.trans ?_)⟩
    decide +kernel
  · have inline : cleaning.RunsInline cleaningScripts .cleaning .overriding "echo $TOKEN" :=
      runsInline_cleaning (by decide +kernel) (by decide +kernel)
    have split : Shell.statements "echo $TOKEN" = [] ++ printing 1 :: [] := by decide +kernel
    have paths : ∀ path, Container.overriding.MountsSecret PodSpec.cleaning.volumes path →
        Text.occurs path (printing 1).written.toList = false := by
      rintro path ⟨mount, among, -⟩
      cases among
    have id : (cleaning.place .cleaning .overriding).statementId (.inline "side" "echo $TOKEN")
        (printing 1) = "c:side:inline:side:1.0" := by decide +kernel
    obtain ⟨unused, sink, -⟩ := clean_override_stops_flow cleaning .echoing none cleaningScripts
      inline split latestClean_overriding (eq_of_mem_printing 1) paths
    rw [← id]
    refine ⟨unused, fun e he target => sink e he (target.trans ?_)⟩
    decide +kernel

end Manifest

end SecretFlow

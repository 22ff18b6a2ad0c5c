import SecretFlow.Proofs.ListedScopes

set_option autoImplicit false
set_option relaxedAutoImplicit false

/-!
Moves of a run, act by act. An act takes one step of building, or changes the scope that is current
in one place. Names are looked up one after the other, a node is made and linked before a name is
bound to it, and a scope is handed on when all acts of a move are done. The acts of each part of
building lead to the scope and the steps of that part.
-/

namespace SecretFlow

inductive Act where
  | take (s : GraphStep)
  | bind (name : String) (b : Binding)
  | clear (name : String)
  | addUnknown (start : String) (id : NodeId)
  | addMount (path : String) (id : NodeId)

def Act.taking (steps : List GraphStep) : List Act :=
  steps.map .take

namespace Walked

def act (w : Walked) : Act → Walked
  | .take s => { w with steps := w.steps ++ [s] }
  | .bind name b => { w with scope := w.scope.bind name b }
  | .clear name => { w with scope := w.scope.clear name }
  | .addUnknown start id =>
      { w with scope := { w.scope with unknown := w.scope.unknown ++ [(start, id)] } }
  | .addMount path id =>
      { w with scope := { w.scope with mounts := w.scope.mounts ++ [(path, id)] } }

def acts (w : Walked) (as : List Act) : Walked :=
  as.foldl act w

@[simp] theorem acts_nil (w : Walked) : w.acts [] = w := rfl

@[simp] theorem acts_cons (w : Walked) (a : Act) (as : List Act) :
    w.acts (a :: as) = (w.act a).acts as := rfl

@[simp] theorem acts_append (w : Walked) (as more : List Act) :
    w.acts (as ++ more) = (w.acts as).acts more :=
  List.foldl_append

@[simp] theorem acts_taking (w : Walked) (steps : List GraphStep) :
    w.acts (Act.taking steps) = ⟨w.scope, w.steps ++ steps⟩ := by
  induction steps generalizing w with
  | nil => simp [Act.taking]
  | cons s steps ih =>
    refine (ih (w.act (.take s))).trans ?_
    simp [act]

private theorem acts_bind (w : Walked) (names : List String) (b : Binding) :
    w.acts (names.map (.bind · b)) = ⟨names.foldl (·.bind · b) w.scope, w.steps⟩ := by
  induction names generalizing w with
  | nil => rfl
  | cons name names ih => exact ih (w.act (.bind name b))

private theorem acts_clear (w : Walked) (names : List String) :
    w.acts (names.map .clear) = ⟨names.foldl Scope.clear w.scope, w.steps⟩ := by
  induction names generalizing w with
  | nil => rfl
  | cons name names ih => exact ih (w.act (.clear name))

theorem steps_prefix_acts (w : Walked) (as : List Act) : w.steps <+: (w.acts as).steps := by
  induction as generalizing w with
  | nil => exact List.prefix_rfl
  | cons a as ih =>
    have first : w.steps <+: (w.act a).steps := by
      cases a with
      | take s => exact List.prefix_append _ _
      | _ => exact List.prefix_rfl
    exact first.trans (ih (w.act a))

end Walked

/-! ### The acts of each part -/

namespace Place

/-- A name that gets a node by being looked up is bound to it when the node is linked. -/
def lookupActs (p : Place) (scope : Scope) (name : String) : List Act :=
  let found := p.lookup scope name
  if found.steps.isEmpty then []
  else Act.taking found.steps ++ found.bindings.map (.bind name)

def lookupAllActs (p : Place) (scope : Scope) : List String → List Act
  | [] => []
  | name :: names => p.lookupActs scope name ++ p.lookupAllActs (p.lookup scope name).scope names

/-- A secret is declared before names are bound to it. -/
def importActs (p : Place) (cluster : Option Cluster) (scope : Scope) (e : EnvImport) : List Act :=
  Act.taking (p.envImport cluster scope e).steps ++
    match e.source with
    | .secret secret =>
        let id := p.id s!"envFrom:{secret}"
        match cluster.bind (·.secretKeys? secret) with
        | some keys => ((keys.map (e.start ++ ·)).filter fun n => Shell.isName n.toList).map
            (.bind · (.toDeclaration id))
        | none => [.addUnknown e.start id]
    | .configMap name =>
        (((cluster.bind (·.configMapKeys? name)).getD []).map (e.start ++ ·)).map .clear

/-- What a text mentions is looked up before its variable gets a node, and the variable is bound
last. -/
def variableActs (p : Place) (options : FlowOptions) (scope : Scope) (e : EnvVariable) : List Act :=
  match e.source with
  | .secretKey _ _ => Act.taking (p.envVariable options scope e).steps ++
      [.bind e.name (.toDeclaration (p.id s!"env:{e.name}"))]
  | .literal value =>
      let found := p.lookupAll scope (Shell.argumentVariables value)
      let id := p.id s!"envref:{e.name}"
      Act.taking (p.userNameNotes options.identifiers e value) ++
        (p.lookupAllActs scope (Shell.argumentVariables value) ++
          if found.bindings.isEmpty then [.clear e.name]
          else Act.taking (.node ⟨id, .envVarRef, some (p.origin e.field), .name e.name⟩ ::
            linkAll found.bindings id) ++ [.bind e.name (.toReference id)])
  | _ => [.clear e.name]

def mountActs (p : Place) (volumes : List Volume) (scope : Scope) (m : VolumeMount) : List Act :=
  Act.taking (p.volumeMount volumes scope m).steps ++
    match (volume? volumes m.name).map Volume.source with
    | some (.secret _ _) =>
        let path := Text.dropRepeatedEnd '/' m.mountPath.toList
        if path.isEmpty then []
        else [.addMount (String.ofList path) (p.id s!"mount:{m.name}")]
    | _ => []

def argumentActs (p : Place) (k : Container) (scope : Scope) (arg : String × Nat) : List Act :=
  let names := addNames (Shell.argumentVariables arg.1) (Shell.variableNames arg.1 true)
  let found := p.references scope names arg.1
  let id := p.id s!"arg:{arg.2}"
  p.lookupAllActs scope names ++ Act.taking
    (if found.bindings.isEmpty then []
    else .node ⟨id, .commandArg, some (p.origin (k.argvField arg.2)), .text arg.1⟩ ::
      linkAll found.bindings id)

/-- What a statement mentions is looked up before it gets a node and a sink, and the name to which
it assigns is changed last. -/
def statementActs (p : Place) (rules : List SinkRule) (script : ScriptRef) (expanded : Bool)
    (scope : Scope) (s : Shell.Statement) : List Act :=
  let names := if expanded then addNames s.variableNames (Shell.argumentVariables s.text)
    else s.variableNames
  let found := p.mentioned expanded scope s
  let id := p.statementId script s
  p.lookupAllActs scope names ++
    (Act.taking (consumerSteps rules id (.script script.key s.line) s found.bindings) ++
      match s.assignment with
      | none => []
      | some a =>
          if found.bindings.isEmpty then [.clear a.name]
          else [.bind a.name ⟨id, false,
            a.exported || ((found.scope.get? a.name).map (·.exported)).getD false⟩])

variable (p : Place) (w : Walked)

theorem acts_lookup (name : String) :
    w.acts (p.lookupActs w.scope name) =
      ⟨(p.lookup w.scope name).scope, w.steps ++ (p.lookup w.scope name).steps⟩ := by
  unfold lookupActs lookup
  split
  · simp
  · split
    · simp
    · dsimp only
      split
      · simp
      · simp [Walked.act]

private theorem lookupAll_cons (scope : Scope) (name : String) (names : List String) :
    (p.lookupAll scope (name :: names)).scope =
        (p.lookupAll (p.lookup scope name).scope names).scope ∧
      (p.lookupAll scope (name :: names)).steps =
        (p.lookup scope name).steps ++ (p.lookupAll (p.lookup scope name).scope names).steps := by
  -- Whatever was found before only stands in front.
  have front (found : Found) :
      (names.foldl p.lookupNext found).scope = (p.lookupAll found.scope names).scope ∧
        (names.foldl p.lookupNext found).steps =
          found.steps ++ (p.lookupAll found.scope names).steps := by
    induction names generalizing found with
    | nil => exact ⟨rfl, (List.append_nil _).symm⟩
    | cons other names ih =>
      obtain ⟨scope_eq, steps_eq⟩ := ih (p.lookupNext found other)
      obtain ⟨scope_eq', steps_eq'⟩ := ih (p.lookupNext { scope := found.scope } other)
      have alone : (p.lookupAll found.scope (other :: names)).steps = _ := steps_eq'
      refine ⟨scope_eq.trans scope_eq'.symm, steps_eq.trans ?_⟩
      rw [alone]
      simp [lookupNext]
  obtain ⟨scope_eq, steps_eq⟩ := front (p.lookupNext { scope } name)
  refine ⟨scope_eq, steps_eq.trans ?_⟩
  simp [lookupNext]

private theorem acts_lookupAll (names : List String) :
    w.acts (p.lookupAllActs w.scope names) =
      ⟨(p.lookupAll w.scope names).scope, w.steps ++ (p.lookupAll w.scope names).steps⟩ := by
  induction names generalizing w with
  | nil => simp [lookupAllActs, lookupAll]
  | cons name names ih =>
    obtain ⟨scope_eq, steps_eq⟩ := p.lookupAll_cons w.scope name names
    rw [lookupAllActs, Walked.acts_append, acts_lookup, scope_eq, steps_eq, ← List.append_assoc]
    exact ih _

private theorem acts_envImport (cluster : Option Cluster) (e : EnvImport) :
    w.acts (p.importActs cluster w.scope e) = w.andThen (p.envImport cluster) e := by
  rw [importActs, Walked.acts_append, Walked.acts_taking]
  unfold Walked.andThen envImport
  cases e.source with
  | secret secret =>
    dsimp only
    cases cluster.bind (·.secretKeys? secret) with
    | some keys => exact Walked.acts_bind _ _ _
    | none => rfl
  | configMap name =>
    refine (Walked.acts_clear _ _).trans ?_
    rw [List.foldl_map]

private theorem acts_envVariable (options : FlowOptions) (e : EnvVariable) :
    w.acts (p.variableActs options w.scope e) = w.andThen (p.envVariable options) e := by
  unfold variableActs Walked.andThen envVariable
  cases e.source with
  | secretKey secret key => simp [Walked.act]
  | literal value =>
    dsimp only
    rw [Walked.acts_append, Walked.acts_taking, Walked.acts_append]
    have looked := p.acts_lookupAll ⟨w.scope, w.steps ++ p.userNameNotes options.identifiers e value⟩
      (Shell.argumentVariables value)
    rw [looked]
    split
    · simp [Walked.act]
    · simp [Walked.act]
  | _ => simp [Walked.act]

private theorem acts_volumeMount (volumes : List Volume) (m : VolumeMount) :
    w.acts (p.mountActs volumes w.scope m) = w.andThen (p.volumeMount volumes) m := by
  rw [mountActs, Walked.acts_append, Walked.acts_taking]
  unfold Walked.andThen volumeMount
  cases (volume? volumes m.name).map Volume.source with
  | none => rfl
  | some source =>
    cases source with
    | secret secret items =>
      dsimp only
      split
      · rfl
      · rfl
    | _ => rfl

private theorem acts_argument (k : Container) (mentioning : List NodeId) (arg : String × Nat) :
    w.acts (p.argumentActs k w.scope arg) =
      ⟨(p.argument k ({ scope := w.scope }, mentioning) arg).1.scope,
        w.steps ++ (p.argument k ({ scope := w.scope }, mentioning) arg).1.steps⟩ := by
  unfold argumentActs argument
  dsimp only
  rw [Walked.acts_append, acts_lookupAll, Walked.acts_taking]
  split
  · simp [references]
  · simp [references]

private theorem acts_statementAlone (rules : List SinkRule) (script : ScriptRef) (expanded : Bool)
    (s : Shell.Statement) :
    w.acts (p.statementActs rules script expanded w.scope s) =
      w.andThen (p.statementAlone rules script expanded) s := by
  unfold statementActs Walked.andThen statementAlone
  dsimp only
  rw [Walked.acts_append, acts_lookupAll, Walked.acts_append, Walked.acts_taking]
  cases s.assignment with
  | none => simp [mentioned, references]
  | some a =>
    dsimp only
    unfold assign
    cases nothing : (p.mentioned expanded w.scope s).bindings.isEmpty with
    | true => simp [mentioned, references, Walked.act]
    | false => simp [mentioned, references, Walked.act]

end Place

/-! ### The acts of a move -/

namespace OpenContainer

/-- The scope that acts change: that of the innermost script, or else that of the container. -/
def current (c : OpenContainer) : Scope :=
  match c.scripts with
  | [] => c.scope
  | s :: _ => s.scope

def setCurrent (c : OpenContainer) (scope : Scope) : OpenContainer :=
  match c.scripts with
  | [] => { c with scope }
  | s :: outer => { c with scripts := { s with scope } :: outer }

variable (b : BuildSetting)

/-- The acts of a chore. To launch a script is to hand on a scope. -/
def choreActs (c : OpenContainer) : Chore → List Act
  | .importing e => c.place.importActs b.cluster c.scope e
  | .setting e => c.place.variableActs b.options c.scope e
  | .mounting m => c.place.mountActs b.volumes c.scope m
  | .reading arg => c.place.argumentActs c.container c.scope arg
  | .sinking => Act.taking (c.place.argumentSink b.options.sinks
      (" ".intercalate ((Place.plainArguments c.container).map (·.1))) c.mentioning)
  | .launching _ => []

def acts (l : Listing) (stack : List String) (c : OpenContainer) : List Act :=
  match c.activity with
  | .calling call => Act.taking (c.enter b l stack call).steps
  | .resolving call => Act.taking (c.ask b l stack call).steps
  | .returning _ _ => []
  | .working =>
      match c.scripts with
      | s :: _ =>
          match s.left with
          | [] => []
          | next :: _ =>
              c.place.statementActs b.options.sinks s.call.ref s.call.expanded s.scope next
      | [] =>
          match c.left with
          | [] => []
          | chore :: _ => c.choreActs b chore

variable {b : BuildSetting} {l : Listing} {stack : List String} {c : OpenContainer}

@[simp] theorem setCurrent_current (c : OpenContainer) : c.setCurrent c.current = c := by
  obtain ⟨place, container, left, scope, mentioning, scripts, activity⟩ := c
  cases scripts with
  | nil => rfl
  | cons s outer => rfl

theorem mem_scopes_setCurrent {scope s : Scope} (alive : s ∈ (c.setCurrent scope).scopes) :
    s = scope ∨ s ∈ c.scopes := by
  unfold setCurrent at alive
  cases scripts : c.scripts with
  | nil =>
    simp only [scopes, scripts, List.map_nil, List.append_nil, List.mem_cons] at alive ⊢
    exact alive.imp_right .inr
  | cons t outer =>
    simp only [scopes, scripts, List.map_cons, List.mem_cons, List.mem_append] at alive ⊢
    rcases alive with own | handed | current | outer
    · exact .inr (.inl own)
    · exact .inr (.inr (.inl handed))
    · exact .inl current
    · exact .inr (.inr (.inr (.inr outer)))

private theorem scopes_enter {call : ScriptCall} (doing : c.activity = .calling call) :
    (c.enter b l stack call).container.scopes = c.scopes := by
  unfold enter
  dsimp only
  split
  · simp only [scopes, doing, Activity.scopes]
  · split
    · simp only [scopes, doing, Activity.scopes]
    · simp only [scopes, doing, Activity.scopes]

private theorem scopes_ask {call : ScriptCall} (doing : c.activity = .resolving call) :
    (c.ask b l stack call).container.scopes = c.scopes := by
  unfold ask
  dsimp only
  split
  · simp only [scopes, doing, Activity.scopes]
  · simp [scopes, doing, Activity.scopes]

private theorem mem_scopes_resume {call : ScriptCall} {scope s : Scope}
    (doing : c.activity = .returning call scope) (alive : s ∈ (c.resume call scope).scopes) :
    s ∈ c.scopes := by
  unfold resume at alive
  cases scripts : c.scripts with
  | nil =>
    simp only [scopes, scripts, doing, Activity.scopes, List.map_nil, List.append_nil,
      List.mem_cons, List.not_mem_nil, or_false] at alive ⊢
    rw [alive]
    split
    · exact .inr rfl
    · exact .inl rfl
  | cons t outer =>
    simp only [scopes, scripts, doing, Activity.scopes, List.map_cons, List.nil_append,
      List.cons_append, List.mem_cons] at alive ⊢
    rcases alive with own | resumed | outer
    · exact .inl own
    · rw [resumed]
      split
      · exact .inr (.inl rfl)
      · exact .inr (.inr (.inl rfl))
    · exact .inr (.inr (.inr outer))

/-- A move that is complete when a scope and steps are reached: all its steps are taken, and it
leads to no scopes but those that are alive by then and what they export. -/
structure Completes (before : List GraphStep) (c : OpenContainer) (w : Walked) (next : Move) :
    Prop where
  taken : w.steps = before ++ next.steps
  handed : ∀ s ∈ next.container.scopes, ∃ t ∈ (c.setCurrent w.scope).scopes, s = t ∨ s = t.exported

variable {before : List GraphStep}

private theorem completes_handing {w : Walked} {next : Move}
    (done : w = ⟨c.current, before ++ next.steps⟩)
    (handed : ∀ s ∈ next.container.scopes, s ∈ c.scopes) : c.Completes before w next := by
  subst done
  refine ⟨rfl, ?_⟩
  rw [setCurrent_current]
  exact fun s alive => ⟨s, handed s alive, .inl rfl⟩

private theorem completes_walkNext {s : OpenScript} {outer : List OpenScript}
    (doing : c.activity = .working)
    (scripts : c.scripts = s :: outer) (next : Shell.Statement) (left : List Shell.Statement) :
    c.Completes before ((⟨s.scope, before⟩ : Walked).andThen
      (c.place.statementAlone b.options.sinks s.call.ref s.call.expanded) next)
      (c.walkNext b stack s outer next left) := by
  refine ⟨rfl, ?_⟩
  intro t alive
  simp only [walkNext, scopes, setCurrent, scripts, doing, Activity.scopes, Walked.andThen,
    List.map_cons, List.nil_append, List.mem_cons, List.mem_append] at alive ⊢
  rcases alive with own | handed | alone | outer
  · exact ⟨t, .inl own, .inl rfl⟩
  · refine ⟨_, .inr (.inl rfl), ?_⟩
    cases invokes : next.invocation with
    | none => simp [invokes] at handed
    | some i =>
      simp only [invokes, childCall, List.mem_singleton] at handed
      cases mode : i.mode with
      | source => exact .inl (by simpa [mode] using handed)
      | execute => exact .inr (by simpa [mode] using handed)
  · exact ⟨t, .inr (.inl alone), .inl rfl⟩
  · exact ⟨t, .inr (.inr outer), .inl rfl⟩

private theorem completes_perform (doing : c.activity = .working) (scripts : c.scripts = [])
    (left : List Chore) (chore : Chore) :
    c.Completes before ((⟨c.scope, before⟩ : Walked).acts (c.choreActs b chore))
      (c.perform b stack left chore) := by
  -- All chores but one lead to a container with another scope, which is the only one alive.
  have changed {w : Walked} {next : Move}
      (done : w = ⟨next.container.scope, before ++ next.steps⟩)
      (same : next.container.scripts = c.scripts) (still : next.container.activity = c.activity) :
      c.Completes before w next := by
    subst done
    refine ⟨rfl, ?_⟩
    intro s alive
    refine ⟨s, ?_, .inl rfl⟩
    simpa [scopes, setCurrent, scripts, doing, Activity.scopes, same, still] using alive
  cases chore with
  | importing e => exact changed (c.place.acts_envImport _ b.cluster e) rfl rfl
  | setting e => exact changed (c.place.acts_envVariable _ b.options e) rfl rfl
  | mounting m => exact changed (c.place.acts_volumeMount _ b.volumes m) rfl rfl
  | reading arg =>
    exact changed (c.place.acts_argument ⟨c.scope, before⟩ c.container c.mentioning arg) rfl rfl
  | sinking => exact changed (Walked.acts_taking _ _) rfl rfl
  | launching launch =>
    refine ⟨(List.append_nil before).symm, ?_⟩
    intro s alive
    simp only [perform, choreActs, Walked.acts_nil, scopes, setCurrent, scripts, doing,
      Activity.scopes, ScriptCall.ofLaunch, List.map_nil, List.append_nil, List.mem_cons,
      List.not_mem_nil, or_false] at alive ⊢
    refine ⟨c.scope, rfl, ?_⟩
    rcases alive with own | handed
    · exact .inl own
    · rw [handed]
      split
      · exact .inl rfl
      · exact .inr rfl

private theorem Moves.completes {next : Move} (moves : c.Moves b l stack next)
    (before : List GraphStep) :
    c.Completes before ((⟨c.current, before⟩ : Walked).acts (c.acts b l stack)) next := by
  cases moves with
  | enter call doing =>
    refine completes_handing (by simp [acts, doing]) fun s alive => ?_
    rwa [scopes_enter doing] at alive
  | ask call doing =>
    refine completes_handing (by simp [acts, doing]) fun s alive => ?_
    rwa [scopes_ask doing] at alive
  | resume call scope doing =>
    exact completes_handing (by simp [acts, doing]) fun s alive => mem_scopes_resume doing alive
  | close s outer doing scripts statements =>
    refine completes_handing (by simp [acts, doing, scripts, statements]) fun t alive => ?_
    simpa [scopes, doing, scripts, Activity.scopes] using alive
  | walk s outer next left doing scripts statements =>
    simp only [acts, doing, scripts, statements, current]
    rw [c.place.acts_statementAlone ⟨s.scope, before⟩]
    exact completes_walkNext doing scripts next left
  | perform left chore doing scripts chores =>
    simp only [acts, doing, scripts, chores, current]
    exact completes_perform doing scripts left chore

private theorem acts_of_done (stays : c.move b l stack = none) : c.acts b l stack = [] := by
  obtain ⟨doing, scripts⟩ := done_of_move stays
  cases chores : c.left with
  | nil => simp only [acts, doing, scripts, chores]
  | cons chore left => simp [move, doing, scripts, chores] at stays

end OpenContainer

/-! ### Between two acts -/

namespace BuildPoint

def acts (b : BuildSetting) (l : Listing) (p : BuildPoint) : List Act :=
  match p.containers with
  | [] => []
  | c :: _ => c.acts b l p.stack

def during (p : BuildPoint) (done : List Act) : BuildPoint :=
  match p.containers with
  | [] => p
  | c :: others =>
      let w := (⟨c.current, p.steps⟩ : Walked).acts done
      ⟨p.stack, c.setCurrent w.scope :: others, w.steps⟩

end BuildPoint

namespace BuildSetting

/-- On the way from the first point, building passes the second: it has done some of the acts, or
none yet, in whatever order entries are listed. -/
def Passes (b : BuildSetting) (p q : BuildPoint) : Prop :=
  ∃ l done, done <+: p.acts b l ∧ q = p.during done

/-- When all acts are done, the steps that lead to the next point are taken, and the next point has
no scopes but those that are alive by then and what they export. -/
theorem during_acts {b : BuildSetting} {l : Listing} {p q : BuildPoint}
    (leads : b.advance l p = some q) :
    (p.during (p.acts b l)).steps = q.steps ∧ ∀ c ∈ q.containers, ∀ s ∈ c.scopes,
      ∃ d ∈ (p.during (p.acts b l)).containers, ∃ t ∈ d.scopes, s = t ∨ s = t.exported := by
  unfold advance at leads
  unfold BuildPoint.during BuildPoint.acts
  cases containers : p.containers with
  | nil => simp [containers] at leads
  | cons c others =>
    simp only [containers] at leads ⊢
    cases moves : c.move b l p.stack with
    | some move =>
      simp only [moves, Option.some.injEq] at leads
      subst leads
      have complete := (OpenContainer.moves_of_move moves).completes p.steps
      refine ⟨complete.taken, ?_⟩
      intro d hd s alive
      rcases List.mem_cons.mp hd with rfl | other
      · obtain ⟨t, earlier, handed⟩ := complete.handed s alive
        exact ⟨_, List.mem_cons_self, t, earlier, handed⟩
      · exact ⟨d, List.mem_cons_of_mem _ other, s, alive, .inl rfl⟩
    | none =>
      simp only [moves, Option.some.injEq] at leads
      subst leads
      rw [OpenContainer.acts_of_done moves]
      exact ⟨rfl, fun d hd s alive => ⟨d, List.mem_cons_of_mem _ hd, s, alive, .inl rfl⟩⟩

end BuildSetting

end SecretFlow

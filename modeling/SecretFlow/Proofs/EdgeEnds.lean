import SecretFlow.Proofs.BuildActs

set_option autoImplicit false
set_option relaxedAutoImplicit false

/-!
No edge is refused. Between any two acts of building, every id that a scope holds belongs to a node
of the graph that is built by then: an act binds a name or a path only to a node that was made
before it, nodes are never lost, and a scope is only handed on or cut down to what it exports. So
both ends of each edge are nodes when it is added.
-/

namespace SecretFlow

/-! ### The ends of edges -/

private theorem Graph.addEdge_eq_ok {g : Graph} {e : Edge} (source : g.contains e.source)
    (target : g.contains e.target) : g.addEdge e = .ok (g.step (.edge e)) := by
  unfold Graph.step Graph.addEdge
  simp only [source, target, Bool.not_true, Bool.false_eq_true, if_false]
  split
  · rfl
  · rfl

/-- Whenever one of the steps adds an edge, both of its ends are nodes. -/
def EndsKnown (unit : String) (steps : List GraphStep) : Prop :=
  ∀ before e after, steps = before ++ .edge e :: after →
    (graphOf unit before).contains e.source ∧ (graphOf unit before).contains e.target

namespace EndsKnown

variable {unit : String} {steps more : List GraphStep}

private theorem append (known : EndsKnown unit steps)
    (new : ∀ front e after, more = front ++ .edge e :: after →
      (graphOf unit (steps ++ front)).contains e.source ∧
        (graphOf unit (steps ++ front)).contains e.target) :
    EndsKnown unit (steps ++ more) := by
  intro before e after split
  rcases List.append_eq_append_iff.mp split with ⟨front, rfl, found⟩ | ⟨rest, rfl, found⟩
  · exact new front e after found
  · cases rest with
    | nil =>
      have ends := new [] e after (by simpa using found.symm)
      simpa using ends
    | cons s rest =>
      obtain ⟨rfl, -⟩ := List.cons.inj found
      exact known before e rest rfl

private theorem note (known : EndsKnown unit steps) (d : Diagnostic) :
    EndsKnown unit (steps ++ [.note d]) := by
  refine known.append fun front e after split => ?_
  have among : GraphStep.edge e ∈ [.note d] := by simp [split]
  simp at among

private theorem links (known : EndsKnown unit steps) {n : Node}
    (joins : ∀ e, .edge e ∈ more → (graphOf unit steps).contains e.source ∧ e.target = n.id) :
    EndsKnown unit (steps ++ .node n :: more) := by
  refine known.append fun front e after split => ?_
  cases front with
  | nil => cases split
  | cons s front =>
    obtain ⟨rfl, rest⟩ := List.cons.inj split
    obtain ⟨source, target⟩ := joins e (by simp [rest])
    rw [Grounded.graphOf_append, target]
    exact ⟨(Graph.extends_run _ _).contains source, Graph.contains_run List.mem_cons_self⟩

private theorem linkAll (known : EndsKnown unit steps) {n : Node} {bindings : List Binding}
    (held : ∀ b ∈ bindings, b.HeldBy steps) :
    EndsKnown unit (steps ++ .node n :: linkAll bindings n.id) := by
  refine known.links fun e link => ?_
  obtain ⟨b, hb, -, eq⟩ := GraphStep.mem_linkAll.mp link
  obtain rfl := GraphStep.edge.inj eq
  exact ⟨(held b hb).contains unit, rfl⟩

end EndsKnown

/-- In grounded steps, both ends of an edge are nodes when it is added. -/
private theorem Grounded.endsKnown {named : Node → Prop} {steps : List GraphStep}
    (grounded : Grounded named steps) (unit : String) : EndsKnown unit steps := by
  induction grounded with
  | root _ _ =>
    have nothing : EndsKnown unit [] := fun before e after split => by simp at split
    exact nothing.links fun e link => by cases link
  | note d _ ih => exact ih.note d
  | declare grounded _ ih =>
    refine ih.links fun e link => ?_
    obtain ⟨-, eq⟩ := GraphStep.mem_edgeBetween.mp link
    obtain rfl := GraphStep.edge.inj eq
    exact ⟨grounded.contains_root unit, rfl⟩
  | carry _ _ _ _ held ih => exact ih.linkAll held
  | sink users _ _ _ used ih =>
    refine ih.links fun e link => ?_
    obtain ⟨id, hid, link⟩ := List.mem_flatMap.mp link
    obtain ⟨-, eq⟩ := GraphStep.mem_edgeBetween.mp link
    obtain rfl := GraphStep.edge.inj eq
    exact ⟨(used id hid).contains unit, rfl⟩
  | deadEnd _ _ _ _ held ih =>
    rw [List.append_cons]
    exact (ih.note _).linkAll fun b hb => (held b hb).append _

/-! ### Acts keep bindings held -/

def Act.BindsTo (steps : List GraphStep) : Act → Prop
  | .take _ => True
  | .bind _ b => b.HeldBy steps
  | .clear _ => True
  | .addUnknown _ id => (Binding.toDeclaration id).HeldBy steps
  | .addMount _ id => (Binding.toReference id).HeldBy steps

private theorem Act.BindsTo.append {a : Act} {steps : List GraphStep} (binds : a.BindsTo steps)
    (more : List GraphStep) : a.BindsTo (steps ++ more) := by
  cases a with
  | take _ | clear _ => trivial
  | bind _ _ | addUnknown _ _ | addMount _ _ => exact Binding.HeldBy.append binds more

namespace Walked

def Held (w : Walked) : Prop :=
  ∀ b ∈ w.scope.bindings, b.HeldBy w.steps

def StaysHeld (w : Walked) (as : List Act) : Prop :=
  ∀ done, done <+: as → (w.acts done).Held

variable {w : Walked} {as more : List Act}

private theorem Held.act (held : w.Held) {a : Act} (binds : a.BindsTo w.steps) :
    (w.act a).Held := by
  intro b hb
  cases a with
  | take s => exact (held b hb).append [s]
  | bind name c =>
    rcases Scope.mem_bindings_bind hb with rfl | old
    · exact binds
    · exact held b old
  | clear name => exact held b (Scope.mem_bindings_clear hb)
  | addUnknown start id =>
    rcases Scope.mem_bindings_addUnknown hb with rfl | old
    · exact binds
    · exact held b old
  | addMount path id =>
    rcases Scope.mem_bindings_addMount hb with rfl | old
    · exact binds
    · exact held b old

private theorem StaysHeld.nil (held : w.Held) : w.StaysHeld [] := by
  intro done some
  obtain rfl := List.prefix_nil.mp some
  exact held

private theorem StaysHeld.last (stays : w.StaysHeld as) : (w.acts as).Held :=
  stays as List.prefix_rfl

private theorem StaysHeld.append (stays : w.StaysHeld as) (next : (w.acts as).StaysHeld more) :
    w.StaysHeld (as ++ more) := by
  intro done some
  rcases List.prefix_or_prefix_of_prefix some (List.prefix_append as more) with few | ⟨rest, rfl⟩
  · exact stays done few
  · rw [acts_append]
    exact next rest ((List.prefix_append_right_inj as).mp some)

private theorem StaysHeld.cons (held : w.Held) {a : Act} (next : (w.act a).StaysHeld as) :
    w.StaysHeld (a :: as) := by
  intro done some
  cases done with
  | nil => exact held
  | cons first done =>
    obtain ⟨rfl, rest⟩ := List.cons_prefix_cons.mp some
    exact next done rest

private theorem StaysHeld.of_binds (held : w.Held) (binds : ∀ a ∈ as, a.BindsTo w.steps) :
    w.StaysHeld as := by
  induction as generalizing w with
  | nil => exact .nil held
  | cons a as ih =>
    obtain ⟨first, later⟩ := List.forall_mem_cons.mp binds
    refine .cons held (ih (held.act first) fun c hc => ?_)
    obtain ⟨new, eq⟩ := w.steps_prefix_acts [a]
    exact eq ▸ (later c hc).append new

private theorem StaysHeld.taking (held : w.Held) (steps : List GraphStep) :
    w.StaysHeld (Act.taking steps) := by
  refine .of_binds held fun a ha => ?_
  obtain ⟨s, -, rfl⟩ := List.mem_map.mp ha
  trivial

private theorem StaysHeld.taking_append (held : w.Held) {steps : List GraphStep}
    (binds : ∀ a ∈ as, a.BindsTo (w.steps ++ steps)) : w.StaysHeld (Act.taking steps ++ as) := by
  have taken := StaysHeld.taking held steps
  refine taken.append (.of_binds taken.last ?_)
  rwa [acts_taking]

end Walked

namespace Place

open Walked (StaysHeld)

variable {p : Place} {w : Walked}

private theorem heldBy_lookup {scope : Scope} {name : String}
    (made : ¬ (p.lookup scope name).steps.isEmpty)
    (steps : List GraphStep) {b : Binding} (found : b ∈ (p.lookup scope name).bindings) :
    b.HeldBy (steps ++ (p.lookup scope name).steps) := by
  revert made found
  unfold lookup
  split
  · simp
  · split
    · simp
    · dsimp only
      split
      · simp
      · intro _ found
        obtain rfl := List.mem_singleton.mp found
        exact Binding.heldBy_new _ _ rfl true

private theorem staysHeld_lookup (held : w.Held) (name : String) :
    w.StaysHeld (p.lookupActs w.scope name) := by
  unfold lookupActs
  dsimp only
  split
  · exact .nil held
  · rename_i made
    refine .taking_append held fun a ha => ?_
    obtain ⟨b, found, rfl⟩ := List.mem_map.mp ha
    exact heldBy_lookup made w.steps found

private theorem staysHeld_lookupAll (held : w.Held) (names : List String) :
    w.StaysHeld (p.lookupAllActs w.scope names) := by
  induction names generalizing w with
  | nil => exact .nil held
  | cons name names ih =>
    have looked := staysHeld_lookup (p := p) held name
    have first := looked.last
    refine looked.append ?_
    rw [acts_lookup] at first ⊢
    exact ih first

private theorem staysHeld_envImport (held : w.Held) (cluster : Option Cluster) (e : EnvImport) :
    w.StaysHeld (p.importActs cluster w.scope e) := by
  unfold importActs envImport
  cases e.source with
  | secret secret =>
    dsimp only
    cases cluster.bind (·.secretKeys? secret) with
    | some keys =>
      refine .taking_append held fun a ha => ?_
      obtain ⟨name, -, rfl⟩ := List.mem_map.mp ha
      exact Binding.heldBy_declaration w.steps _ _ _
    | none =>
      refine .taking_append held fun a ha => ?_
      obtain rfl := List.mem_singleton.mp ha
      rw [← List.append_assoc]
      exact (Binding.heldBy_declaration w.steps _ _ _).append _
  | configMap name =>
    refine .taking_append held fun a ha => ?_
    obtain ⟨key, -, rfl⟩ := List.mem_map.mp ha
    trivial

private theorem staysHeld_envVariable (held : w.Held) (options : FlowOptions) (e : EnvVariable) :
    w.StaysHeld (p.variableActs options w.scope e) := by
  unfold variableActs envVariable
  cases e.source with
  | secretKey secret key =>
    refine .taking_append held fun a ha => ?_
    obtain rfl := List.mem_singleton.mp ha
    exact Binding.heldBy_declaration w.steps _ _ _
  | literal value =>
    dsimp only
    have noted := Walked.StaysHeld.taking held (p.userNameNotes options.identifiers e value)
    have here := noted.last
    refine noted.append ?_
    rw [Walked.acts_taking] at here ⊢
    have looked := staysHeld_lookupAll (p := p) here (Shell.argumentVariables value)
    refine looked.append ?_
    split
    · exact .of_binds looked.last (by simp [Act.BindsTo])
    · refine .taking_append looked.last fun a ha => ?_
      obtain rfl := List.mem_singleton.mp ha
      exact Binding.heldBy_new _ _ rfl true
  | _ => exact .of_binds held (by simp [Act.BindsTo])

private theorem staysHeld_volumeMount (held : w.Held) (volumes : List Volume) (m : VolumeMount) :
    w.StaysHeld (p.mountActs volumes w.scope m) := by
  unfold mountActs volumeMount
  refine .taking_append held ?_
  cases (volume? volumes m.name).map Volume.source with
  | none => simp
  | some source =>
    cases source with
    | secret secret items =>
      dsimp only
      split
      · simp
      · intro a ha
        obtain rfl := List.mem_singleton.mp ha
        rw [← List.append_assoc]
        exact Binding.heldBy_new _ _ rfl true
    | _ => simp

private theorem staysHeld_argument (held : w.Held) (k : Container) (arg : String × Nat) :
    w.StaysHeld (p.argumentActs k w.scope arg) := by
  have looked := staysHeld_lookupAll (p := p) held
    (addNames (Shell.argumentVariables arg.1) (Shell.variableNames arg.1 true))
  exact looked.append (.taking looked.last _)

private theorem staysHeld_statementAlone (held : w.Held) (rules : List SinkRule)
    (script : ScriptRef) (expanded : Bool) (s : Shell.Statement) :
    w.StaysHeld (p.statementActs rules script expanded w.scope s) := by
  unfold statementActs
  dsimp only
  have looked := staysHeld_lookupAll (p := p) held
    (if expanded then addNames s.variableNames (Shell.argumentVariables s.text)
      else s.variableNames)
  refine looked.append (.taking_append looked.last ?_)
  cases s.assignment with
  | none => simp
  | some a =>
    dsimp only
    split
    · simp [Act.BindsTo]
    · rename_i mentions
      intro c hc
      obtain rfl := List.mem_singleton.mp hc
      unfold consumerSteps
      rw [if_neg mentions, List.cons_append]
      exact Binding.heldBy_new _ _ rfl _

end Place

/-! ### Moves keep bindings held -/

abbrev anyNode (_ : Node) : Prop :=
  True

private theorem Place.mayName_any (p : Place) (k : Container) (volumes : List Volume) :
    p.MayName k volumes anyNode :=
  fun _ _ _ _ _ => trivial

/-- In all scopes that are alive every binding is held by the steps, and arguments that mention
anything are nodes from which secrets can go to a sink. -/
structure OpenContainer.Held (steps : List GraphStep) (c : OpenContainer) : Prop where
  scopes : ∀ s ∈ c.scopes, ∀ b ∈ s.bindings, b.HeldBy steps
  mentioned : ∀ id ∈ c.mentioning, UsedBy id steps

namespace OpenContainer

open Walked (StaysHeld)

variable {b : BuildSetting} {l : Listing} {stack : List String} {c : OpenContainer}
  {before : List GraphStep}

private theorem Held.append (held : c.Held before) (more : List GraphStep) :
    c.Held (before ++ more) :=
  ⟨fun s alive b hb => (held.scopes s alive b hb).append more,
    fun id hid => (held.mentioned id hid).append more⟩

private theorem current_mem_scopes (c : OpenContainer) : c.current ∈ c.scopes := by
  unfold current
  cases scripts : c.scripts with
  | nil => exact List.mem_cons_self
  | cons s outer => simp [scopes, scripts]

private theorem staysHeld_choreActs (here : Walked.Held ⟨c.scope, before⟩) (chore : Chore) :
    StaysHeld ⟨c.scope, before⟩ (c.choreActs b chore) := by
  cases chore with
  | importing e => exact Place.staysHeld_envImport here b.cluster e
  | setting e => exact Place.staysHeld_envVariable here b.options e
  | mounting m => exact Place.staysHeld_volumeMount here b.volumes m
  | reading arg => exact Place.staysHeld_argument here c.container arg
  | sinking => exact .taking here _
  | launching launch => exact .nil here

private theorem Held.staysHeld (held : c.Held before) :
    StaysHeld ⟨c.current, before⟩ (c.acts b l stack) := by
  have here : Walked.Held ⟨c.current, before⟩ := held.scopes _ c.current_mem_scopes
  unfold acts
  cases c.activity with
  | calling call => exact .taking here _
  | resolving call => exact .taking here _
  | returning call scope => exact .nil here
  | working =>
    unfold current at here ⊢
    cases scripts : c.scripts with
    | nil =>
      rw [scripts] at here
      dsimp only at here ⊢
      cases c.left with
      | nil => exact .nil here
      | cons chore left => exact staysHeld_choreActs here chore
    | cons s outer =>
      rw [scripts] at here
      dsimp only at here ⊢
      cases s.left with
      | nil => exact .nil here
      | cons next left => exact Place.staysHeld_statementAlone here _ _ _ next

private theorem Held.ready (held : c.Held before) (grounded : Grounded anyNode before) {s : Scope}
    (alive : s ∈ c.scopes) : Ready anyNode before s :=
  ⟨grounded, held.scopes s alive⟩

private theorem grounded_deadEnd {s : Scope} (ready : Ready anyNode before s) (key : String)
    (cause : UnresolvedCause) {kind : DiagnosticKind} (degrades : kind.degrades = true)
    (message : String) :
    Grounded anyNode
      (before ++ c.place.note kind message :: c.place.deadEnd (s.listed l) key cause) := by
  have listed : Ready anyNode before (s.listed l) :=
    ⟨ready.grounded, fun b hb => ready.held b ((Scope.bindings_perm (l.perm s.vars)).mem_iff.mp hb)⟩
  exact (Place.ready_deadEnd (c.place.mayName_any c.container []) listed key cause degrades
    message).grounded

private theorem grounded_enter {call : ScriptCall} (ready : Ready anyNode before call.scope) :
    Grounded anyNode (before ++ (c.enter b l stack call).steps) := by
  unfold enter
  dsimp only
  split
  · exact grounded_deadEnd ready _ _ rfl _
  · split
    · exact ready.grounded.note _
    · rw [List.append_nil]
      exact ready.grounded

private theorem grounded_ask {call : ScriptCall} (ready : Ready anyNode before call.scope) :
    Grounded anyNode (before ++ (c.ask b l stack call).steps) := by
  unfold ask
  dsimp only
  split
  · exact grounded_deadEnd ready _ _ rfl _
  · rw [List.append_nil]
    exact ready.grounded

private theorem Held.readyArguments (held : c.Held before) (grounded : Grounded anyNode before) :
    Place.ReadyArguments anyNode before ({ scope := c.scope }, c.mentioning) := by
  have own : Ready anyNode before c.scope := held.ready grounded List.mem_cons_self
  refine ⟨?_, ?_⟩
  · rw [List.append_nil]
    exact own
  · rw [List.append_nil]
    exact held.mentioned

private theorem Held.grounded_perform (held : c.Held before) (grounded : Grounded anyNode before)
    (left : List Chore) (chore : Chore) :
    Grounded anyNode (before ++ (c.perform b stack left chore).steps) := by
  have own : Ready anyNode before c.scope := held.ready grounded List.mem_cons_self
  -- Nodes may be named in any way, so what the container holds besides the chore does not matter.
  cases chore with
  | importing e =>
    exact (Place.ready_envImport (c.place.mayName_any { c.container with envFrom := [e] } [])
      b.cluster own List.mem_cons_self).grounded
  | setting e =>
    exact (Place.ready_envVariable (c.place.mayName_any { c.container with env := [e] } [])
      b.options own List.mem_cons_self).grounded
  | mounting m =>
    exact (Place.ready_volumeMount (c.place.mayName_any { c.container with mounts := [m] } b.volumes)
      own List.mem_cons_self).grounded
  | reading arg =>
    exact (Place.ready_argument (c.place.mayName_any c.container []) (held.readyArguments grounded)
      arg).ready.grounded
  | sinking =>
    have sunk := Place.ready_argumentSink (c.place.mayName_any c.container [])
      (held.readyArguments grounded) b.options.sinks
      (" ".intercalate ((Place.plainArguments c.container).map (·.1)))
    rw [List.append_nil] at sunk
    exact sunk.grounded
  | launching launch =>
    rw [perform, List.append_nil]
    exact grounded

private theorem Held.grounded_move {next : Move} (held : c.Held before)
    (grounded : Grounded anyNode before) (moves : c.Moves b l stack next) :
    Grounded anyNode (before ++ next.steps) := by
  cases moves with
  | enter call doing =>
    exact grounded_enter (held.ready grounded (by simp [OpenContainer.scopes, doing, Activity.scopes]))
  | ask call doing =>
    exact grounded_ask (held.ready grounded (by simp [OpenContainer.scopes, doing, Activity.scopes]))
  | resume | close =>
    rw [List.append_nil]
    exact grounded
  | walk s outer next left doing scripts statements =>
    have ready : Ready anyNode before s.scope :=
      held.ready grounded (by simp [OpenContainer.scopes, scripts])
    exact (Place.ready_statementAlone (c.place.mayName_any c.container []) b.options.sinks s.call.ref
      s.call.expanded ready next).grounded
  | perform left chore => exact held.grounded_perform grounded left chore

private theorem Held.mentioned_move {next : Move} (held : c.Held before)
    (grounded : Grounded anyNode before) (moves : c.Moves b l stack next) :
    ∀ id ∈ next.container.mentioning, UsedBy id (before ++ next.steps) := by
  have same (kept : next.container.mentioning = c.mentioning) :
      ∀ id ∈ next.container.mentioning, UsedBy id (before ++ next.steps) := by
    rw [kept]
    exact fun id hid => (held.mentioned id hid).append _
  cases moves with
  | enter call doing =>
    refine same ?_
    unfold enter
    dsimp only
    split
    · rfl
    · split <;> rfl
  | ask call doing =>
    refine same ?_
    unfold ask
    dsimp only
    split <;> rfl
  | resume call scope doing =>
    refine same ?_
    unfold resume
    split <;> rfl
  | close => exact same rfl
  | walk => exact same rfl
  | perform left chore =>
    cases chore with
    | reading arg =>
      exact (Place.ready_argument (c.place.mayName_any c.container [])
        (held.readyArguments grounded) arg).used
    | _ => exact same rfl

end OpenContainer

/-! ### Runs keep bindings held -/

structure BuildPoint.Held (p : BuildPoint) : Prop where
  grounded : Grounded anyNode p.steps
  containers : ∀ c ∈ p.containers, c.Held p.steps

namespace BuildSetting

variable {b : BuildSetting} {p q : BuildPoint}

private theorem Passes.held (passes : b.Passes p q) (held : p.Held) :
    ∀ c ∈ q.containers, ∀ s ∈ c.scopes, ∀ b ∈ s.bindings, b.HeldBy q.steps := by
  obtain ⟨l, done, some, rfl⟩ := passes
  have all := held.containers
  unfold BuildPoint.acts at some
  unfold BuildPoint.during
  cases containers : p.containers with
  | nil =>
    dsimp only
    rw [containers]
    simp
  | cons c others =>
    rw [containers] at all some
    obtain ⟨first, rest⟩ := List.forall_mem_cons.mp all
    obtain ⟨more, taken⟩ := (⟨c.current, p.steps⟩ : Walked).steps_prefix_acts done
    dsimp only
    intro d hd s alive
    rcases List.mem_cons.mp hd with rfl | other
    · rcases OpenContainer.mem_scopes_setCurrent alive with rfl | old
      · exact first.staysHeld done some
      · rw [← taken]
        exact (first.append more).scopes s old
    · rw [← taken]
      exact ((rest d other).append more).scopes s alive

private theorem Advances.scopes_held (next : b.Advances p q) (held : p.Held) :
    ∀ c ∈ q.containers, ∀ s ∈ c.scopes, ∀ b ∈ s.bindings, b.HeldBy q.steps := by
  -- all bindings are held at the next point: those in the scopes that are handed on were held when
  -- all acts were done
  obtain ⟨l, leads⟩ := next
  obtain ⟨taken, handed⟩ := during_acts leads
  have last : b.Passes p (p.during (p.acts b l)) := ⟨l, _, List.prefix_rfl, rfl⟩
  intro c hc s alive a ha
  rw [← taken]
  obtain ⟨d, hd, t, earlier, rfl | rfl⟩ := handed c hc s alive
  · exact last.held held d hd s earlier a ha
  · exact last.held held d hd t earlier a (Scope.mem_bindings_exported ha)

private theorem Advances.held (next : b.Advances p q) (held : p.Held) : q.Held := by
  have scopes := next.scopes_held held
  obtain ⟨c, others, containers, leads⟩ := next.cases
  have all := held.containers
  rw [containers] at all
  obtain ⟨first, rest⟩ := List.forall_mem_cons.mp all
  rcases leads with ⟨l, move, moves, rfl⟩ | ⟨-, -, rfl⟩
  · refine ⟨first.grounded_move held.grounded moves, List.forall_mem_cons.mpr ⟨?_, ?_⟩⟩
    · exact ⟨scopes _ List.mem_cons_self, first.mentioned_move held.grounded moves⟩
    · exact fun d hd => (rest d hd).append _
  · exact ⟨held.grounded, rest⟩

private theorem Runs.held (runs : b.Runs p q) (held : p.Held) : q.Held :=
  runs.keeps (fun _ _ next => next.held) held

end BuildSetting

namespace Manifest

variable (m : Manifest) (options : FlowOptions) (cluster : Option Cluster) (resolve : Resolver)

private theorem held_startPoint : m.startPoint.Held := by
  refine ⟨m.grounded_openingSteps _, ?_⟩
  intro c hc
  unfold startPoint openContainers at hc
  dsimp only at hc
  split at hc
  · cases hc
  · obtain ⟨k, -, rfl⟩ := List.mem_map.mp hc
    exact ⟨by simp [OpenContainer.scopes, OpenContainer.resting, Activity.scopes, Scope.bindings],
      by simp [OpenContainer.resting]⟩

/-- Every edge that building adds finds both of its ends among the nodes, so it is accepted and
stays. Wherever building gets to, and between any two acts on the way from there, every id that a
scope holds for a name, for names that are not known or for a path belongs to a node of the graph
that is built by then. -/
theorem every_edge_finds_ends :
    (∀ before e after, m.flowSteps options cluster resolve = before ++ .edge e :: after →
      (graphOf m.unitId before).addEdge e = .ok (graphOf m.unitId (before ++ [.edge e])) ∧
        e ∈ (m.flowGraph options cluster resolve).edges) ∧
    ∀ p q, (m.buildSetting options cluster resolve).Runs m.startPoint p →
      (m.buildSetting options cluster resolve).Passes p q →
      ∀ c ∈ q.containers, ∀ s ∈ c.scopes, ∀ b ∈ s.bindings,
        (graphOf m.unitId q.steps).contains b.node := by
  refine ⟨?_, ?_⟩
  · intro before e after split
    have grounded := m.grounded_flowSteps options cluster resolve
    obtain ⟨source, target⟩ := grounded.endsKnown m.unitId before e after split
    refine ⟨?_, grounded.edge_mem m.unitId (by simp [split])⟩
    rw [Grounded.graphOf_append]
    exact Graph.addEdge_eq_ok source target
  · intro p q reached passes c hc s alive b hb
    have held := passes.held (reached.held m.held_startPoint)
    exact (held c hc s alive b hb).contains m.unitId

/-- A variable of a secret whose keys are not known gets a node in the middle of a statement: when
it is bound, and before the statement has a node of its own, it is bound to a node of the graph. -/
theorem every_edge_finds_ends_unknown :
    let k : Container := { Container.shell [] "X=$PASS" with
      envFrom := [⟨.secret "db", "", "envFrom[0]"⟩] }
    let m : Manifest := { shellPod [] "" with
      body := .workload { field := "spec", containers := [k] } }
    let b := m.buildSetting .echoing none (.ofTable [])
    let e : Edge := ⟨"c:app:envref:PASS", "c:app:inline:app:1.0", .referencedBy⟩
    (∃ before after, m.flowSteps .echoing none (.ofTable []) = before ++ .edge e :: after ∧
      (graphOf m.unitId before).addEdge e = .ok (graphOf m.unitId (before ++ [.edge e]))) ∧
    ∃ p q, b.Runs m.startPoint p ∧ b.Passes p q ∧ ∃ c ∈ q.containers, ∃ s ∈ c.scopes,
      ∃ a, s.get? "PASS" = some a ∧ (graphOf m.unitId q.steps).contains a.node := by
  intro k m b e
  let place := Place.ofContainer "pod.yaml" [] k
  let launch : Place.Launch := ⟨.inline "app" "X=$PASS", true⟩
  have chores : place.chores k = k.envFrom.map .importing ++
      ((Place.plainArguments k).map .reading ++ [.launching launch]) := by
    have launches : place.launches k = [launch] := by decide +kernel
    have shell : Shell.namesShell "sh" = true := by decide +kernel
    show k.envFrom.map Chore.importing ++ ((Place.plainArguments k).map Chore.reading ++
      ((if Shell.namesShell "sh" then [] else [.sinking]) ++ (place.launches k).map .launching)) = _
    rw [launches, if_pos shell]
    rfl
  have imported := BuildSetting.runs_chores (b := b) (p := place) (k := k) [] .importing
    (place.envImport none) (fun _ _ _ => rfl) k.envFrom { scope := {} }
    ((Place.plainArguments k).map .reading ++ [.launching launch]) m.openingSteps
  rw [← chores, List.append_nil] at imported
  have started := imported.trans (BuildSetting.runs_arguments [] (Place.plainArguments k)
    (k.envFrom.foldl (Walked.andThen (place.envImport none)) { scope := {} }, []) _ _)
  have reached := started.trans (BuildSetting.Runs.move rfl (BuildSetting.Runs.move rfl
    (BuildSetting.Runs.move rfl (.refl _))))
  obtain ⟨edges, nodes⟩ := every_edge_finds_ends m .echoing none (.ofTable [])
  have linked : .edge e ∈ m.flowSteps .echoing none (.ofTable []) := by decide +kernel
  obtain ⟨before, after, split⟩ := List.append_of_mem linked
  -- Three acts of the statement are done: the variable has a node, which is linked, and is bound to
  -- it.
  have passes (p : BuildPoint) : b.Passes p (p.during ((p.acts b .standing).take 3)) :=
    ⟨.standing, _, List.take_prefix 3 _, rfl⟩
  have held := nodes _ _ reached (passes _) _ List.mem_cons_self _
    (List.mem_cons_of_mem _ List.mem_cons_self)
  refine ⟨⟨before, after, split, (edges before e after split).1⟩, _, _, reached, passes _, _,
    List.mem_cons_self, _, List.mem_cons_of_mem _ List.mem_cons_self,
    .toReference "c:app:envref:PASS", ?bound, held _ (Scope.mem_bindings_of_get? ?bound)⟩
  decide +kernel

end Manifest

end SecretFlow

import Mathlib.Logic.Relation
import SecretFlow.Flow.Build

set_option autoImplicit false
set_option relaxedAutoImplicit false

/-!
Building as a run from point to point. At a point, a container has chores left, and scripts that it
runs are being walked inside each other, each with statements left and a scope of its own. The
labels of these scripts stand on one stack, which lasts from the first container to the last: a
label is put on it when a script is opened, and whatever stands on top is taken off when one is
closed. The entries of a scope may be listed in another order at each point. A run in which they are
listed as they stand ends, and has then taken the steps in which the flow graph is built.
-/

namespace SecretFlow

/-- An order in which the entries of a scope are listed. -/
structure Listing where
  order : List (String × Binding) → List (String × Binding)
  perm : ∀ vars, (order vars).Perm vars

def Listing.standing : Listing :=
  ⟨id, fun vars => .refl vars⟩

def Scope.listed (s : Scope) (l : Listing) : Scope :=
  { s with vars := l.order s.vars }

/-- A call to walk a script: how many scripts are around it, whether the cluster expands its text
first, whether the caller goes on with the scope that it leaves, and the stack when it is made. -/
structure ScriptCall where
  ref : ScriptRef
  scope : Scope
  depth : Nat
  expanded : Bool
  shared : Bool
  entry : List String

def ScriptCall.ofLaunch (stack : List String) (scope : Scope) (l : Place.Launch) : ScriptCall where
  ref := l.ref
  scope := if l.inline then scope else scope.exported
  depth := 0
  expanded := l.inline
  shared := l.inline
  entry := stack

structure OpenScript where
  call : ScriptCall
  scope : Scope
  left : List Shell.Statement

/-- What is done at a point: go on with the innermost script or else with the container, come to a
script, ask for its text, or go back to where it was called. -/
inductive Activity where
  | working
  | calling (call : ScriptCall)
  | resolving (call : ScriptCall)
  | returning (call : ScriptCall) (scope : Scope)

inductive Chore where
  | importing (e : EnvImport)
  | setting (e : EnvVariable)
  | mounting (m : VolumeMount)
  | reading (arg : String × Nat)
  | sinking
  | launching (l : Place.Launch)

def Place.argvChores (p : Place) (k : Container) : List Chore :=
  match k.argv with
  | [] => []
  | first :: _ => (plainArguments k).map .reading ++
      ((if Shell.namesShell first then [] else [.sinking]) ++ (p.launches k).map .launching)

def Place.chores (p : Place) (k : Container) : List Chore :=
  k.envFrom.map .importing ++ (k.env.map .setting ++ (k.mounts.map .mounting ++ p.argvChores k))

/-- A container with its scope, the arguments that mention anything, the chores that are left, and
the scripts that are being walked, innermost first. -/
structure OpenContainer where
  place : Place
  container : Container
  left : List Chore
  scope : Scope
  mentioning : List NodeId
  scripts : List OpenScript
  activity : Activity

def OpenContainer.resting (p : Place) (k : Container) (left : List Chore) (scope : Scope)
    (mentioning : List NodeId := []) : OpenContainer :=
  ⟨p, k, left, scope, mentioning, [], .working⟩

/-- A point of a run: the stack of labels, the containers that are not done, and the steps that were
taken. -/
structure BuildPoint where
  stack : List String := []
  containers : List OpenContainer
  steps : List GraphStep

structure BuildSetting where
  options : FlowOptions
  cluster : Option Cluster
  resolve : Resolver
  volumes : List Volume

structure Move where
  stack : List String
  container : OpenContainer
  steps : List GraphStep := []

namespace OpenContainer

variable (b : BuildSetting)

/-- Come to a script. It is not walked below too many others, nor if it is being walked already. -/
def enter (l : Listing) (stack : List String) (c : OpenContainer) (call : ScriptCall) : Move :=
  let key := call.ref.key
  if b.options.maxReferenceDepth ≤ call.depth then
    ⟨stack, { c with activity := .returning call call.scope },
      c.place.note .depthExceeded
        s!"stopped expanding '{key}' at reference depth {b.options.maxReferenceDepth}" ::
        c.place.deadEnd (call.scope.listed l) key .depthExceeded⟩
  else if stack.contains key then
    ⟨stack, { c with activity := .returning call call.scope },
      [c.place.note .cyclicReference s!"'{key}' is already being expanded; not following it again"]⟩
  else ⟨stack, { c with activity := .resolving call }, []⟩

def ask (l : Listing) (stack : List String) (c : OpenContainer) (call : ScriptCall) : Move :=
  let key := call.ref.key
  match b.resolve call.ref with
  | .error e =>
      ⟨stack, { c with activity := .returning call call.scope },
        c.place.note .unresolvedScript e.message ::
          c.place.deadEnd (call.scope.listed l) key (Place.causeOf e)⟩
  | .ok text =>
      ⟨key :: stack, { c with
        activity := .working
        scripts := ⟨call, call.scope, Shell.statements text⟩ :: c.scripts }, []⟩

/-- Go back to the caller of a script. It goes on with the scope that is left if it shares it. -/
def resume (c : OpenContainer) (call : ScriptCall) (scope : Scope) : OpenContainer :=
  match c.scripts with
  | [] => { c with activity := .working, scope := if call.shared then scope else c.scope }
  | s :: outer => { c with
      activity := .working
      scripts := { s with scope := if call.shared then scope else s.scope } :: outer }

def childCall (stack : List String) (p : Place) (s : OpenScript) (scope : Scope)
    (i : Shell.Invocation) : ScriptCall where
  ref := p.scriptRef i.target (some s.call.ref)
  scope := match i.mode with
    | .source => scope
    | .execute => scope.exported
  depth := s.call.depth + 1
  expanded := false
  shared := i.mode = .source
  entry := stack

def walkNext (stack : List String) (c : OpenContainer) (s : OpenScript) (outer : List OpenScript)
    (next : Shell.Statement) (left : List Shell.Statement) : Move :=
  let alone := c.place.statementAlone b.options.sinks s.call.ref s.call.expanded s.scope next
  ⟨stack, { c with
    scripts := { s with scope := alone.scope, left } :: outer
    activity := match next.invocation with
      | none => .working
      | some i => .calling (childCall stack c.place s alone.scope i) }, alone.steps⟩

def perform (stack : List String) (c : OpenContainer) (left : List Chore) : Chore → Move
  | .importing e =>
      let w := c.place.envImport b.cluster c.scope e
      ⟨stack, { c with scope := w.scope, left }, w.steps⟩
  | .setting e =>
      let w := c.place.envVariable b.options c.scope e
      ⟨stack, { c with scope := w.scope, left }, w.steps⟩
  | .mounting m =>
      let w := c.place.volumeMount b.volumes c.scope m
      ⟨stack, { c with scope := w.scope, left }, w.steps⟩
  | .reading arg =>
      let w := c.place.argument c.container ({ scope := c.scope }, c.mentioning) arg
      ⟨stack, { c with scope := w.1.scope, mentioning := w.2, left }, w.1.steps⟩
  | .sinking =>
      ⟨stack, { c with left }, c.place.argumentSink b.options.sinks
        (" ".intercalate ((Place.plainArguments c.container).map (·.1))) c.mentioning⟩
  | .launching l =>
      ⟨stack, { c with
        left
        activity := .calling (.ofLaunch stack c.scope l) }, []⟩

def move (l : Listing) (stack : List String) (c : OpenContainer) : Option Move :=
  match c.activity with
  | .calling call => some (c.enter b l stack call)
  | .resolving call => some (c.ask b l stack call)
  | .returning call scope => some ⟨stack, c.resume call scope, []⟩
  | .working =>
      match c.scripts with
      | s :: outer =>
          match s.left with
          | [] => some ⟨stack.tail,
              { c with scripts := outer, activity := .returning s.call s.scope }, []⟩
          | next :: left => some (c.walkNext b stack s outer next left)
      | [] =>
          match c.left with
          | [] => none
          | chore :: left => some (c.perform b stack left chore)

inductive Moves (l : Listing) (stack : List String) (c : OpenContainer) : Move → Prop
  | enter (call : ScriptCall) : c.activity = .calling call → Moves l stack c (c.enter b l stack call)
  | ask (call : ScriptCall) : c.activity = .resolving call → Moves l stack c (c.ask b l stack call)
  | resume (call : ScriptCall) (scope : Scope) : c.activity = .returning call scope →
      Moves l stack c ⟨stack, c.resume call scope, []⟩
  | close (s : OpenScript) (outer : List OpenScript) : c.activity = .working →
      c.scripts = s :: outer → s.left = [] → Moves l stack c
        ⟨stack.tail, { c with scripts := outer, activity := .returning s.call s.scope }, []⟩
  | walk (s : OpenScript) (outer : List OpenScript) (next : Shell.Statement)
      (left : List Shell.Statement) : c.activity = .working → c.scripts = s :: outer →
      s.left = next :: left → Moves l stack c (c.walkNext b stack s outer next left)
  | perform (left : List Chore) (chore : Chore) : c.activity = .working → c.scripts = [] →
      c.left = chore :: left → Moves l stack c (c.perform b stack left chore)

theorem moves_of_move {b : BuildSetting} {l : Listing} {stack : List String} {c : OpenContainer}
    {next : Move} (moves : c.move b l stack = some next) : c.Moves b l stack next := by
  unfold move at moves
  cases doing : c.activity with
  | calling call =>
    simp only [doing, Option.some.injEq] at moves
    exact moves ▸ .enter call doing
  | resolving call =>
    simp only [doing, Option.some.injEq] at moves
    exact moves ▸ .ask call doing
  | returning call scope =>
    simp only [doing, Option.some.injEq] at moves
    exact moves ▸ .resume call scope doing
  | working =>
    simp only [doing] at moves
    cases scripts : c.scripts with
    | nil =>
      simp only [scripts] at moves
      cases chores : c.left with
      | nil => simp [chores] at moves
      | cons chore left =>
        simp only [chores, Option.some.injEq] at moves
        exact moves ▸ .perform left chore doing scripts chores
    | cons s outer =>
      simp only [scripts] at moves
      cases statements : s.left with
      | nil =>
        simp only [statements, Option.some.injEq] at moves
        exact moves ▸ .close s outer doing scripts statements
      | cons next left =>
        simp only [statements, Option.some.injEq] at moves
        exact moves ▸ .walk s outer next left doing scripts statements

theorem done_of_move {b : BuildSetting} {l : Listing} {stack : List String} {c : OpenContainer}
    (stays : c.move b l stack = none) : c.activity = .working ∧ c.scripts = [] := by
  unfold move at stays
  cases doing : c.activity with
  | working =>
    refine ⟨rfl, ?_⟩
    cases scripts : c.scripts with
    | nil => rfl
    | cons s outer => cases statements : s.left <;> simp [doing, scripts, statements] at stays
  | _ => simp [doing] at stays

end OpenContainer

namespace BuildSetting

variable (b : BuildSetting)

/-- The next point of a run, if the entries of scopes are listed in an order: the first container
goes on, or is left if it is done. -/
def advance (l : Listing) (p : BuildPoint) : Option BuildPoint :=
  match p.containers with
  | [] => none
  | c :: others =>
      match c.move b l p.stack with
      | some next => some ⟨next.stack, next.container :: others, p.steps ++ next.steps⟩
      | none => some { p with containers := others }

/-- A point leads to another one, in whatever order entries are listed. -/
def Advances (p q : BuildPoint) : Prop :=
  ∃ l, b.advance l p = some q

def Runs : BuildPoint → BuildPoint → Prop :=
  Relation.ReflTransGen b.Advances

theorem Advances.cases {b : BuildSetting} {p q : BuildPoint} (next : b.Advances p q) :
    ∃ c others, p.containers = c :: others ∧
      ((∃ l move, c.Moves b l p.stack move ∧
        q = ⟨move.stack, move.container :: others, p.steps ++ move.steps⟩) ∨
      (c.activity = .working ∧ c.scripts = [] ∧ q = { p with containers := others })) := by
  obtain ⟨l, leads⟩ := next
  unfold advance at leads
  cases containers : p.containers with
  | nil => simp [containers] at leads
  | cons c others =>
    refine ⟨c, others, rfl, ?_⟩
    simp only [containers] at leads
    cases moves : c.move b l p.stack with
    | some move =>
      simp only [moves, Option.some.injEq] at leads
      exact .inl ⟨l, move, OpenContainer.moves_of_move moves, leads.symm⟩
    | none =>
      simp only [moves, Option.some.injEq] at leads
      have done := OpenContainer.done_of_move moves
      exact .inr ⟨done.1, done.2, leads.symm⟩

end BuildSetting

namespace Manifest

def buildSetting (m : Manifest) (options : FlowOptions) (cluster : Option Cluster) (resolve : Resolver) :
    BuildSetting :=
  ⟨options, cluster, resolve, (m.pod?.map (·.volumes)).getD []⟩

def openContainers (m : Manifest) : List OpenContainer :=
  match m.pod? with
  | none => []
  | some pod => pod.containers.map fun k =>
      .resting (.ofContainer m.file pod.volumes k) k
        ((Place.ofContainer m.file pod.volumes k).chores k) {}

def startPoint (m : Manifest) : BuildPoint :=
  { containers := m.openContainers, steps := m.openingSteps }

end Manifest

private theorem Place.argument_after (p : Place) (k : Container) (w : Walked × List NodeId)
    (arg : String × Nat) :
    p.argument k w arg =
      let next := p.argument k ({ scope := w.1.scope }, w.2) arg
      (⟨next.1.scope, w.1.steps ++ next.1.steps⟩, next.2) := by
  unfold Place.argument
  dsimp only
  split
  · rfl
  · simp only [List.nil_append, List.append_assoc]

namespace BuildSetting

variable {b : BuildSetting}

theorem Runs.refl (p : BuildPoint) : b.Runs p p :=
  Relation.ReflTransGen.refl

theorem Runs.trans {p q r : BuildPoint} (first : b.Runs p q) (second : b.Runs q r) : b.Runs p r :=
  Relation.ReflTransGen.trans first second

theorem Runs.keeps {P : BuildPoint → Prop} {p q : BuildPoint} (runs : b.Runs p q)
    (step : ∀ a c, b.Advances a c → P a → P c) (here : P p) : P q := by
  induction runs with
  | refl => exact here
  | tail _ next ih => exact step _ _ next ih

theorem Runs.move {stack : List String} {c : OpenContainer} {others : List OpenContainer}
    {steps : List GraphStep} {next : Move} {q : BuildPoint}
    (moves : c.move b .standing stack = some next)
    (runs : b.Runs ⟨next.stack, next.container :: others, steps ++ next.steps⟩ q) :
    b.Runs ⟨stack, c :: others, steps⟩ q := by
  refine Relation.ReflTransGen.head ⟨.standing, ?_⟩ runs
  simp only [advance, moves]

section Scripts

variable (c : OpenContainer) (others : List OpenContainer)

private theorem runs_statements {stack : List String} (walk : ScriptWalk) (s : OpenScript)
    {outer : List OpenScript}
    (calls : ∀ (scripts : List OpenScript) (scope : Scope) (i : Shell.Invocation)
      (steps : List GraphStep),
      let call := OpenContainer.childCall stack c.place s scope i
      b.Runs ⟨stack, { c with scripts, activity := .calling call } :: others, steps⟩
        ⟨stack, { c with
          scripts, activity := .returning call (walk call.ref call.scope).scope } :: others,
          steps ++ (walk call.ref call.scope).steps⟩)
    (left : List Shell.Statement) (w : Walked) (steps : List GraphStep) :
    let after := left.foldl (Walked.andThen
      (c.place.statement b.options.sinks walk s.call.ref s.call.expanded)) w
    b.Runs ⟨stack, { c with
        scripts := { s with scope := w.scope, left } :: outer, activity := .working } :: others,
        steps ++ w.steps⟩
      ⟨stack, { c with
        scripts := { s with scope := after.scope, left := [] } :: outer
        activity := .working } :: others, steps ++ after.steps⟩ := by
  induction left generalizing w with
  | nil => exact .refl _
  | cons next left ih =>
    refine Runs.trans ?_ (ih _)
    refine Runs.move rfl ?_
    unfold Walked.andThen Place.statement
    cases invokes : next.invocation with
    | none =>
      simp only [OpenContainer.walkNext, invokes, List.append_assoc]
      exact .refl _
    | some i =>
      simp only [OpenContainer.walkNext, invokes]
      refine (calls _ _ i _).trans (Runs.move rfl ?_)
      cases mode : i.mode with
      | source =>
        simp only [OpenContainer.resume, OpenContainer.childCall, mode, List.append_assoc,
          List.append_nil, decide_true, if_true]
        exact .refl _
      | execute =>
        simp only [OpenContainer.resume, OpenContainer.childCall, mode, List.append_assoc,
          List.append_nil, reduceCtorEq, decide_false, Bool.false_eq_true, if_false]
        exact .refl _

/-- A call returns: the script is walked, and the stack is left as it was. -/
private theorem runs_call (levels : Nat) (stack : List String) (call : ScriptCall)
    (fits : call.depth + levels = b.options.maxReferenceDepth) (scripts : List OpenScript)
    (steps : List GraphStep) :
    let w := c.place.script b.options b.resolve levels stack call.expanded call.ref call.scope
    b.Runs ⟨stack, { c with scripts, activity := .calling call } :: others, steps⟩
      ⟨stack, { c with scripts, activity := .returning call w.scope } :: others,
        steps ++ w.steps⟩ := by
  -- On the levels that are left: the calls that a script makes have one level less.
  induction levels generalizing stack call scripts steps with
  | zero =>
    have deep : b.options.maxReferenceDepth ≤ call.depth := by omega
    refine Runs.move rfl ?_
    simp only [OpenContainer.enter, if_pos deep]
    exact .refl _
  | succ levels ih =>
    have deep : ¬ b.options.maxReferenceDepth ≤ call.depth := by omega
    refine Runs.move rfl ?_
    simp only [OpenContainer.enter, if_neg deep, Place.script]
    by_cases around : stack.contains call.ref.key
    · simp only [if_pos around]
      exact .refl _
    · simp only [if_neg around, List.append_nil]
      refine Runs.move rfl ?_
      cases asked : b.resolve call.ref with
      | error e =>
        simp only [OpenContainer.ask, asked]
        exact .refl _
      | ok text =>
        simp only [OpenContainer.ask, asked]
        -- The label of the script is on the stack while its statements are walked.
        refine (runs_statements c others
          (c.place.script b.options b.resolve levels (call.ref.key :: stack) false)
          ⟨call, call.scope, Shell.statements text⟩
          (fun scripts scope i steps => ih _ _ ?_ scripts steps) (Shell.statements text)
          { scope := call.scope } _).trans ?_
        · show call.depth + 1 + levels = b.options.maxReferenceDepth
          omega
        · refine Runs.move rfl ?_
          simp only [List.tail_cons, List.append_nil]
          exact .refl _

end Scripts

section Chores

variable {p : Place} {k : Container} (others : List OpenContainer)

theorem runs_chores {α : Type} (chore : α → Chore) (part : Scope → α → Walked)
    (does : ∀ scope left a,
      OpenContainer.perform b [] (.resting p k (chore a :: left) scope) left (chore a) =
        ⟨[], .resting p k left (part scope a).scope, (part scope a).steps⟩)
    (parts : List α) (w : Walked) (left : List Chore) (steps : List GraphStep) :
    let after := parts.foldl (Walked.andThen part) w
    b.Runs ⟨[], .resting p k (parts.map chore ++ left) w.scope :: others, steps ++ w.steps⟩
      ⟨[], .resting p k left after.scope :: others, steps ++ after.steps⟩ := by
  induction parts generalizing w with
  | nil => exact .refl _
  | cons a parts ih =>
    refine Runs.trans ?_ (ih _)
    refine Runs.move (congrArg some (does w.scope (parts.map chore ++ left) a)) ?_
    simp only [Walked.andThen, List.append_assoc]
    exact .refl _

theorem runs_arguments (args : List (String × Nat)) (w : Walked × List NodeId) (left : List Chore)
    (steps : List GraphStep) :
    let after := args.foldl (p.argument k) w
    b.Runs ⟨[], .resting p k (args.map .reading ++ left) w.1.scope w.2 :: others,
        steps ++ w.1.steps⟩
      ⟨[], .resting p k left after.1.scope after.2 :: others, steps ++ after.1.steps⟩ := by
  induction args generalizing w with
  | nil => exact .refl _
  | cons arg args ih =>
    refine Runs.trans ?_ (ih _)
    refine Runs.move rfl ?_
    rw [p.argument_after k w arg, List.append_assoc]
    exact .refl _

private theorem runs_launch (l : Place.Launch) (left : List Chore) (scope : Scope)
    (mentioning : List NodeId) (steps : List GraphStep) :
    ∃ after, (l.inline = false → after = scope) ∧
      b.Runs ⟨[], .resting p k (.launching l :: left) scope mentioning :: others, steps⟩
        ⟨[], .resting p k left after mentioning :: others,
          steps ++ p.launch b.options b.resolve scope l⟩ := by
  have called := runs_call (b := b) (.resting p k left scope mentioning) others
    b.options.maxReferenceDepth [] (.ofLaunch [] scope l) (Nat.zero_add _) [] (steps ++ [])
  refine ⟨if l.inline then (p.script b.options b.resolve b.options.maxReferenceDepth [] l.inline l.ref
      (if l.inline then scope else scope.exported)).scope else scope, fun file => ?_,
    Runs.move rfl (called.trans (Runs.move rfl ?_))⟩
  · exact if_neg (by simp [file])
  · simp only [List.append_nil]
    exact .refl _

private theorem runs_files {ls : List Place.Launch} (files : ∀ l ∈ ls, l.inline = false)
    (scope : Scope) (mentioning : List NodeId) (steps : List GraphStep) :
    b.Runs ⟨[], .resting p k (ls.map .launching) scope mentioning :: others, steps⟩
      ⟨[], .resting p k [] scope mentioning :: others,
        steps ++ ls.flatMap (p.launch b.options b.resolve scope)⟩ := by
  induction ls generalizing steps with
  | nil =>
    rw [List.flatMap_nil, List.append_nil]
    exact .refl _
  | cons l ls ih =>
    obtain ⟨after, same, walked⟩ := runs_launch (b := b) (p := p) (k := k) others l
      (ls.map .launching) scope mentioning steps
    obtain rfl := same (files l List.mem_cons_self)
    refine walked.trans ?_
    rw [List.flatMap_cons, ← List.append_assoc]
    exact ih (fun l hl => files l (List.mem_cons_of_mem _ hl)) _

private theorem runs_launches (scope : Scope) (mentioning : List NodeId) (steps : List GraphStep) :
    ∃ after, b.Runs
      ⟨[], .resting p k ((p.launches k).map .launching) scope mentioning :: others, steps⟩
      ⟨[], .resting p k [] after mentioning :: others,
        steps ++ (p.launches k).flatMap (p.launch b.options b.resolve scope)⟩ := by
  unfold Place.launches
  split
  · obtain ⟨after, -, walked⟩ := runs_launch (b := b) (p := p) (k := k) others _ [] scope
      mentioning steps
    refine ⟨after, ?_⟩
    rw [List.flatMap_cons, List.flatMap_nil, List.append_nil]
    exact walked
  · refine ⟨scope, runs_files others (fun l hl => ?_) scope mentioning steps⟩
    obtain ⟨target, -, rfl⟩ := List.mem_map.1 hl
    rfl

private theorem runs_argv (scope : Scope) (steps : List GraphStep) :
    b.Runs ⟨[], .resting p k (p.argvChores k) scope :: others, steps⟩
      ⟨[], others, steps ++ p.argv b.options b.resolve scope k⟩ := by
  -- A container with no chores left is left.
  have leaves : ∀ after mentioning steps,
      b.Runs ⟨[], .resting p k [] after mentioning :: others, steps⟩ ⟨[], others, steps⟩ :=
    fun _ _ _ => Relation.ReflTransGen.single ⟨.standing, rfl⟩
  unfold Place.argvChores Place.argv
  cases k.argv with
  | nil =>
    rw [List.append_nil]
    exact leaves _ _ _
  | cons first rest =>
    have args := runs_arguments (b := b) (p := p) (k := k) others
      (Place.plainArguments k) ({ scope }, [])
      ((if Shell.namesShell first then [] else [.sinking]) ++ (p.launches k).map .launching) steps
    rw [List.append_nil] at args
    refine args.trans ?_
    dsimp only
    rw [← Place.arguments, ← List.append_assoc, ← List.append_assoc]
    obtain ⟨after, launched⟩ := runs_launches (b := b) (p := p) (k := k) others
      (p.arguments scope k).1.scope (p.arguments scope k).2 (steps ++ (p.arguments scope k).1.steps ++
        if Shell.namesShell first then [] else p.argumentSink b.options.sinks
          (" ".intercalate ((Place.plainArguments k).map (·.1))) (p.arguments scope k).2)
    refine Runs.trans ?_ (launched.trans (leaves _ _ _))
    by_cases shell : Shell.namesShell first
    · simp only [shell, if_true, List.nil_append, List.append_nil]
      exact .refl _
    · simp only [shell, Bool.false_eq_true, if_false]
      exact Runs.move rfl (.refl _)

private theorem runs_container (file : String) (k : Container) (steps : List GraphStep) :
    let p := Place.ofContainer file b.volumes k
    b.Runs ⟨[], .resting p k (p.chores k) {} :: others, steps⟩
      ⟨[], others, steps ++ Place.container file b.options b.cluster b.resolve b.volumes k⟩ := by
  intro p
  have imported := runs_chores (b := b) (p := p) (k := k) others .importing
    (p.envImport b.cluster) (fun _ _ _ => rfl) k.envFrom { scope := {} }
    (k.env.map .setting ++ (k.mounts.map .mounting ++ p.argvChores k)) steps
  rw [List.append_nil] at imported
  refine imported.trans ?_
  refine (runs_chores others .setting (p.envVariable b.options) (fun _ _ _ => rfl) k.env _ _ _).trans ?_
  refine (runs_chores others .mounting (p.volumeMount b.volumes) (fun _ _ _ => rfl) k.mounts _ _
    _).trans ?_
  rw [Place.container, ← List.append_assoc]
  exact runs_argv others _ _

private theorem runs_containers (file : String) (ks : List Container) (steps : List GraphStep) :
    b.Runs
      ⟨[], ks.map (fun k => .resting (.ofContainer file b.volumes k) k
        ((Place.ofContainer file b.volumes k).chores k) {}), steps⟩
      ⟨[], [], steps ++
        ks.flatMap (Place.container file b.options b.cluster b.resolve b.volumes)⟩ := by
  induction ks generalizing steps with
  | nil =>
    rw [List.flatMap_nil, List.append_nil]
    exact .refl _
  | cons k ks ih =>
    refine (runs_container _ file k steps).trans ?_
    rw [List.flatMap_cons, ← List.append_assoc]
    exact ih _

end Chores

end BuildSetting

/-- Building leads to a point with no container left, and has then taken the steps of the graph. -/
theorem Manifest.runs_flowSteps (m : Manifest) (options : FlowOptions) (cluster : Option Cluster)
    (resolve : Resolver) :
    (m.buildSetting options cluster resolve).Runs m.startPoint
      ⟨[], [], m.flowSteps options cluster resolve⟩ := by
  unfold Manifest.startPoint Manifest.openContainers Manifest.flowSteps
  cases found : m.pod? with
  | none =>
    simp only [List.append_nil]
    exact .refl _
  | some pod =>
    have volumes : (m.buildSetting options cluster resolve).volumes = pod.volumes := by
      simp only [Manifest.buildSetting, found, Option.map_some, Option.getD_some]
    have walked := BuildSetting.runs_containers (b := m.buildSetting options cluster resolve) m.file
      pod.containers m.openingSteps
    rw [volumes] at walked
    exact walked

end SecretFlow

import SecretFlow.Proofs.BuildRuns
import SecretFlow.Proofs.GroundedGraphs

set_option autoImplicit false
set_option relaxedAutoImplicit false

/-!
The order in which the entries of a scope are listed does not matter. What is in scope is sorted by
node before it is used, and of several bindings to a node the first one counts; they all lead on in
the same way, since the id of a node tells whether it is bound directly. So runs do not branch, in
whatever order entries are listed, and all of them build the same graph.
-/

namespace SecretFlow

/-! ### Ids tell which bindings are direct -/

namespace Place

/-- The text of an id after the name of the container, up to a colon. -/
def tag (p : Place) (id : NodeId) : List Char :=
  (id.toList.drop (p.id "").toList.length).takeWhile (· ≠ ':')

def declares (p : Place) (id : NodeId) : Bool :=
  p.tag id = "env".toList || p.tag id = "envFrom".toList

private theorem declares_id (p : Place) {label : String} (tag : String) (rest : List Char)
    (parts : label.toList = tag.toList ++ ':' :: rest) (simple : ':' ∉ tag.toList) :
    p.declares (p.id label) = (tag = "env" || tag = "envFrom") := by
  have front : (p.id label).toList = (p.id "").toList ++ label.toList := by simp
  have read : p.tag (p.id label) = tag.toList := by
    rw [Place.tag, front, List.drop_left, parts, takeWhile_colon simple]
  simp only [declares, read, String.toList_inj]

private theorem declares_imported (p : Place) (secret : String) :
    p.declares (p.id s!"envFrom:{secret}") = true :=
  p.declares_id "envFrom" secret.toList (by simp [toString]) (by decide)

private theorem declares_variable (p : Place) (name : String) :
    p.declares (p.id s!"env:{name}") = true :=
  p.declares_id "env" name.toList (by simp [toString]) (by decide)

private theorem declares_reference (p : Place) (name : String) :
    p.declares (p.id s!"envref:{name}") = false :=
  p.declares_id "envref" name.toList (by simp [toString]) (by decide)

private theorem declares_mount (p : Place) (name : String) :
    p.declares (p.id s!"mount:{name}") = false :=
  p.declares_id "mount" name.toList (by simp [toString]) (by decide)

private theorem declares_statement (p : Place) (script : ScriptRef) (s : Shell.Statement) :
    p.declares (p.statementId script s) = false := by
  have below (tag : String) (rest : List Char) (key : script.key.toList = tag.toList ++ ':' :: rest)
      (simple : ':' ∉ tag.toList) :
      p.declares (p.statementId script s) = (tag = "env" || tag = "envFrom") :=
    p.declares_id tag (rest ++ (s!":{s.line}.{s.index}").toList)
      (by simp [key, toString]) simple
  cases script with
  | path file => exact below "file" file.toList (by simp [ScriptRef.key, toString]) (by decide)
  | configMap name key =>
    exact below "configmap" (name.toList ++ '/' :: key.toList) (by simp [ScriptRef.key, toString])
      (by decide)
  | inline label text =>
    exact below "inline" label.toList (by simp [ScriptRef.key, toString]) (by decide)

end Place

/-- The nodes of all bindings of a scope tell which of them are direct. -/
def Scope.ToldBy (p : Place) (s : Scope) : Prop :=
  ∀ b ∈ s.bindings, b.direct = p.declares b.node

namespace Scope.ToldBy

variable {p : Place} {s : Scope}

private theorem empty : ({} : Scope).ToldBy p := by
  intro b hb
  cases hb

private theorem bind (told : s.ToldBy p) (name : String) {b : Binding}
    (new : b.direct = p.declares b.node) : (s.bind name b).ToldBy p := by
  intro c hc
  rcases mem_bindings_bind hc with rfl | old
  · exact new
  · exact told c old

private theorem clear (told : s.ToldBy p) (name : String) : (s.clear name).ToldBy p :=
  fun b hb => told b (mem_bindings_clear hb)

private theorem exported (told : s.ToldBy p) : s.exported.ToldBy p :=
  fun b hb => told b (mem_bindings_exported hb)

private theorem lookup (told : s.ToldBy p) (name : String) : (p.lookup s name).scope.ToldBy p := by
  unfold Place.lookup
  split
  · exact told
  · split
    · exact told
    · dsimp only
      split
      · exact told
      · exact told.bind name (p.declares_reference name).symm

private theorem lookupAll (told : s.ToldBy p) (names : List String) :
    (p.lookupAll s names).scope.ToldBy p :=
  List.foldlRecOn (motive := fun found : Found => found.scope.ToldBy p) _ _ told
    fun _ here name _ => here.lookup name

private theorem envImport (told : s.ToldBy p) (cluster : Option Cluster) (e : EnvImport) :
    (p.envImport cluster s e).scope.ToldBy p := by
  unfold Place.envImport
  cases e.source with
  | secret secret =>
    dsimp only
    split
    · exact List.foldlRecOn (motive := fun scope : Scope => scope.ToldBy p) _ _ told
        fun _ here name _ => here.bind name (p.declares_imported secret).symm
    · intro b hb
      rcases mem_bindings_addUnknown hb with rfl | old
      · exact (p.declares_imported secret).symm
      · exact told b old
  | configMap name =>
    exact List.foldlRecOn (motive := fun scope : Scope => scope.ToldBy p) _ _ told
      fun _ here key _ => here.clear _

private theorem envVariable (told : s.ToldBy p) (options : FlowOptions) (e : EnvVariable) :
    (p.envVariable options s e).scope.ToldBy p := by
  unfold Place.envVariable
  dsimp only
  split
  · exact told.bind e.name (p.declares_variable e.name).symm
  · split
    · exact (told.lookupAll _).clear e.name
    · exact (told.lookupAll _).bind e.name (p.declares_reference e.name).symm
  · exact told.clear e.name

private theorem volumeMount (told : s.ToldBy p) (volumes : List Volume) (m : VolumeMount) :
    (p.volumeMount volumes s m).scope.ToldBy p := by
  unfold Place.volumeMount
  split
  · dsimp only
    split
    · exact told
    · intro b hb
      rcases mem_bindings_addMount hb with rfl | old
      · exact (p.declares_mount m.name).symm
      · exact told b old
  · exact told

private theorem argument (told : s.ToldBy p) (k : Container) (mentioning : List NodeId)
    (arg : String × Nat) : (p.argument k ({ scope := s }, mentioning) arg).1.scope.ToldBy p := by
  unfold Place.argument
  dsimp only
  split
  · exact told.lookupAll _
  · exact told.lookupAll _

private theorem statementAlone (told : s.ToldBy p) (rules : List SinkRule) (script : ScriptRef)
    (expanded : Bool) (t : Shell.Statement) :
    (p.statementAlone rules script expanded s t).scope.ToldBy p := by
  have looked : (p.mentioned expanded s t).scope.ToldBy p := told.lookupAll _
  unfold Place.statementAlone
  cases t.assignment with
  | none => exact looked
  | some a =>
    simp only [Place.assign]
    split
    · exact looked.bind a.name (p.declares_statement script t).symm
    · exact looked.clear a.name

end Scope.ToldBy

/-! ### What is in scope, in any order -/

namespace Scope

private theorem map_node_dropRepeats {xs ys : List Binding}
    (same : xs.map (·.node) = ys.map (·.node)) :
    (dropRepeats xs).map (·.node) = (dropRepeats ys).map (·.node) := by
  induction xs generalizing ys with
  | nil =>
    have none := List.map_eq_nil_iff.mp same.symm
    rw [none]
  | cons x xs ih =>
    obtain ⟨y, ys, rfl, first, rest⟩ := List.map_eq_cons_iff.mp same.symm
    have left := ih rest.symm
    simp only [dropRepeats]
    cases hx : dropRepeats xs with
    | nil =>
      rw [hx, List.map_nil] at left
      rw [List.map_eq_nil_iff.mp left.symm]
      simp only [List.map_cons, List.map_nil, first]
    | cons b more =>
      rw [hx] at left
      obtain ⟨c, others, hy, next, tails⟩ := List.map_eq_cons_iff.mp left.symm
      rw [hy]
      dsimp only
      rw [first, next]
      by_cases repeats : x.node = b.node
      · simp only [if_pos repeats, List.map_cons, first, tails]
      · simp only [if_neg repeats, List.map_cons, first, next, tails]

theorem bindings_perm {s : Scope} {vars : List (String × Binding)} (perm : vars.Perm s.vars) :
    ({ s with vars } : Scope).bindings.Perm s.bindings :=
  ((perm.map _).append_right _).append_right _

private theorem map_node_tainted {s : Scope} {vars : List (String × Binding)}
    (perm : vars.Perm s.vars) :
    ({ s with vars } : Scope).tainted.map (·.node) = s.tainted.map (·.node) := by
  let le : Binding → Binding → Bool := fun a b => a.node ≤ b.node
  have sorted (all : List Binding) :
      ((all.mergeSort le).map (·.node)).Pairwise fun a b => a ≤ b := by
    have ordered : (all.mergeSort le).Pairwise fun a b => le a b = true :=
      List.pairwise_mergeSort (by simpa [le] using fun a b c : Binding => String.le_trans)
        (by simpa [le] using fun a b : Binding => String.le_total a.node b.node) all
    rw [List.pairwise_map]
    exact ordered.imp fun h => by simpa [le] using h
  refine map_node_dropRepeats (List.Perm.eq_of_pairwise ?_ (sorted _) (sorted _)
    (List.Perm.map _ ?_))
  · intro a b _ _
    exact String.le_antisymm
  · exact ((List.mergeSort_perm _ le).trans (bindings_perm perm)).trans
      (List.mergeSort_perm _ le).symm

private theorem ToldBy.map_tainted {p : Place} {s : Scope} (told : s.ToldBy p)
    {vars : List (String × Binding)} (perm : vars.Perm s.vars) :
    ({ s with vars } : Scope).tainted.map (fun b => (b.node, b.direct)) =
      s.tainted.map fun b => (b.node, b.direct) := by
  -- if the nodes tell which bindings are direct, neither does this depend on the order
  have listed : ({ s with vars } : Scope).ToldBy p :=
    fun b hb => told b ((bindings_perm perm).mem_iff.mp hb)
  have read {t : Scope} (told : t.ToldBy p) : t.tainted.map (fun b => (b.node, b.direct)) =
      (t.tainted.map (·.node)).map fun id => (id, p.declares id) := by
    rw [List.map_map]
    refine List.map_congr_left fun b hb => ?_
    exact congrArg (Prod.mk b.node) (told b (mem_bindings_of_tainted hb))
  -- Which binding to a node comes first may change, but the node tells all that is kept of it.
  rw [read listed, read told, map_node_tainted perm]

end Scope

private theorem linkAll_congr {xs ys : List Binding}
    (same : xs.map (fun b => (b.node, b.direct)) = ys.map fun b => (b.node, b.direct))
    (target : NodeId) : linkAll xs target = linkAll ys target := by
  have read (all : List Binding) : linkAll all target =
      (all.map fun b => (b.node, b.direct)).flatMap fun u => Binding.link ⟨u.1, u.2, true⟩ target := by
    rw [List.flatMap_map]
    rfl
  rw [read, read, same]

private theorem Scope.ToldBy.deadEnd {p : Place} {s : Scope} (told : s.ToldBy p)
    {vars : List (String × Binding)} (perm : vars.Perm s.vars) (key : String)
    (cause : UnresolvedCause) :
    p.deadEnd { s with vars } key cause = p.deadEnd s key cause := by
  unfold Place.deadEnd
  exact congrArg _ (linkAll_congr (told.map_tainted perm) _)

/-! ### Scopes that are alive -/

def Activity.scopes : Activity → List Scope
  | .working => []
  | .calling call => [call.scope]
  | .resolving call => [call.scope]
  | .returning _ scope => [scope]

namespace OpenContainer

/-- All scopes that are alive: that of the container, one that is handed over, and those of the
scripts that are being walked. -/
def scopes (c : OpenContainer) : List Scope :=
  c.scope :: (c.activity.scopes ++ c.scripts.map (·.scope))

structure Told (c : OpenContainer) : Prop where
  own : c.scope.ToldBy c.place
  handed : ∀ s ∈ c.activity.scopes, s.ToldBy c.place
  walked : ∀ s ∈ c.scripts, s.scope.ToldBy c.place

private theorem Told.of_mem {c : OpenContainer} (told : c.Told) {s : Scope} (alive : s ∈ c.scopes) :
    s.ToldBy c.place := by
  rcases List.mem_cons.mp alive with rfl | alive
  · exact told.own
  · rcases List.mem_append.mp alive with handed | walked
    · exact told.handed s handed
    · obtain ⟨script, hscript, rfl⟩ := List.mem_map.mp walked
      exact told.walked script hscript

variable {b : BuildSetting} {l : Listing} {stack : List String} {c : OpenContainer}

private theorem Told.innermost {s : OpenScript} {outer : List OpenScript} (told : c.Told)
    (scripts : c.scripts = s :: outer) :
    s.scope.ToldBy c.place ∧ ∀ u ∈ outer, u.scope.ToldBy c.place := by
  have walked := told.walked
  rw [scripts] at walked
  exact List.forall_mem_cons.mp walked

private theorem told_resting (p : Place) (k : Container) (left : List Chore) :
    (resting p k left {}).Told :=
  ⟨.empty, by simp [resting, Activity.scopes], by simp [resting]⟩

private theorem told_enter (told : c.Told) (call : ScriptCall) (here : call.scope.ToldBy c.place) :
    (c.enter b l stack call).container.Told := by
  have handed : ∀ s ∈ [call.scope], s.ToldBy c.place := by simpa using here
  unfold enter
  dsimp only
  split
  · exact ⟨told.own, handed, told.walked⟩
  · split
    · exact ⟨told.own, handed, told.walked⟩
    · exact ⟨told.own, handed, told.walked⟩

private theorem told_ask (told : c.Told) (call : ScriptCall) (here : call.scope.ToldBy c.place) :
    (c.ask b l stack call).container.Told := by
  unfold ask
  dsimp only
  split
  · exact ⟨told.own, by simpa [Activity.scopes] using here, told.walked⟩
  · exact ⟨told.own, by simp [Activity.scopes], List.forall_mem_cons.mpr ⟨here, told.walked⟩⟩

private theorem told_resume (told : c.Told) (call : ScriptCall) {scope : Scope}
    (here : scope.ToldBy c.place) : (c.resume call scope).Told := by
  have chosen {old : Scope} (keeps : old.ToldBy c.place) :
      (if call.shared then scope else old).ToldBy c.place := by
    split
    · exact here
    · exact keeps
  unfold resume
  split
  · exact ⟨chosen told.own, by simp [Activity.scopes], told.walked⟩
  · rename_i s outer scripts
    refine ⟨told.own, by simp [Activity.scopes], ?_⟩
    obtain ⟨own, others⟩ := told.innermost scripts
    exact List.forall_mem_cons.mpr ⟨chosen own, others⟩

private theorem told_walkNext {s : OpenScript} {outer : List OpenScript} (told : c.Told)
    (scripts : c.scripts = s :: outer) (next : Shell.Statement) (left : List Shell.Statement) :
    (c.walkNext b stack s outer next left).container.Told := by
  obtain ⟨own, others⟩ := told.innermost scripts
  have alone := own.statementAlone b.options.sinks s.call.ref s.call.expanded next
  refine ⟨told.own, ?_, List.forall_mem_cons.mpr ⟨alone, others⟩⟩
  simp only [walkNext]
  cases next.invocation with
  | none => simp [Activity.scopes]
  | some i =>
    intro t ht
    obtain rfl := List.mem_singleton.mp ht
    simp only [childCall]
    cases i.mode with
    | source => exact alone
    | execute => exact alone.exported

private theorem told_perform (told : c.Told) (left : List Chore) (chore : Chore) :
    (c.perform b stack left chore).container.Told := by
  have handed : ∀ s ∈ c.activity.scopes, s.ToldBy c.place := told.handed
  cases chore with
  | importing e => exact ⟨told.own.envImport b.cluster e, handed, told.walked⟩
  | setting e => exact ⟨told.own.envVariable b.options e, handed, told.walked⟩
  | mounting m => exact ⟨told.own.volumeMount b.volumes m, handed, told.walked⟩
  | reading arg => exact ⟨told.own.argument c.container c.mentioning arg, handed, told.walked⟩
  | sinking => exact ⟨told.own, handed, told.walked⟩
  | launching launch =>
    refine ⟨told.own, ?_, told.walked⟩
    intro s hs
    obtain rfl := List.mem_singleton.mp hs
    show (if launch.inline then c.scope else c.scope.exported).ToldBy c.place
    split
    · exact told.own
    · exact told.own.exported

private theorem Told.move {next : Move} (told : c.Told) (moves : c.Moves b l stack next) :
    next.container.Told := by
  cases moves with
  | enter call doing =>
    exact told_enter told call (told.handed _ (by simp [doing, Activity.scopes]))
  | ask call doing => exact told_ask told call (told.handed _ (by simp [doing, Activity.scopes]))
  | resume call scope doing =>
    exact told_resume told call (told.handed _ (by simp [doing, Activity.scopes]))
  | close s outer _ scripts =>
    obtain ⟨own, others⟩ := told.innermost scripts
    refine ⟨told.own, ?_, others⟩
    intro t ht
    obtain rfl := List.mem_singleton.mp ht
    exact own
  | walk s outer next left _ scripts => exact told_walkNext told scripts next left
  | perform left chore => exact told_perform told left chore

private theorem Told.move_eq (told : c.Told) : c.move b l stack = c.move b .standing stack := by
  have listed {s : Scope} (here : s.ToldBy c.place) (key : String) (cause : UnresolvedCause) :
      c.place.deadEnd (s.listed l) key cause = c.place.deadEnd (s.listed .standing) key cause :=
    here.deadEnd (l.perm s.vars) key cause
  have handed := told.handed
  unfold OpenContainer.move
  cases doing : c.activity with
  | calling call =>
    have here := handed call.scope (by simp [doing, Activity.scopes])
    simp only [enter, listed here]
  | resolving call =>
    have here := handed call.scope (by simp [doing, Activity.scopes])
    simp only [ask, listed here]
  | returning call scope => rfl
  | working => rfl

end OpenContainer

/-! ### Runs do not branch -/

def BuildPoint.Told (p : BuildPoint) : Prop :=
  ∀ c ∈ p.containers, c.Told

namespace BuildSetting

variable {b : BuildSetting} {p q r : BuildPoint}

private theorem Advances.told (next : b.Advances p q) (told : p.Told) : q.Told := by
  obtain ⟨c, others, containers, ⟨l, move, moves, rfl⟩ | ⟨_, _, rfl⟩⟩ := next.cases
  · have all : ∀ d ∈ c :: others, d.Told := containers ▸ told
    intro d hd
    rcases List.mem_cons.mp hd with rfl | other
    · exact (all c List.mem_cons_self).move moves
    · exact all d (List.mem_cons_of_mem _ other)
  · have all : ∀ d ∈ c :: others, d.Told := containers ▸ told
    exact fun d hd => all d (List.mem_cons_of_mem _ hd)

private theorem advance_eq (told : p.Told) (l : Listing) :
    b.advance l p = b.advance .standing p := by
  unfold advance
  cases containers : p.containers with
  | nil => rfl
  | cons c others =>
    have first : c.Told := told c (by rw [containers]; exact List.mem_cons_self)
    simp only [first.move_eq]

/-- A point leads to one other point only, in whatever order entries are listed. -/
private theorem Advances.unique (told : p.Told) (first : b.Advances p q) (second : b.Advances p r) :
    q = r := by
  obtain ⟨l, hq⟩ := first
  obtain ⟨k, hr⟩ := second
  rw [advance_eq told] at hq hr
  exact Option.some.inj (hq.symm.trans hr)

theorem Runs.told (runs : b.Runs p q) (told : p.Told) : q.Told :=
  runs.keeps (fun _ _ next => next.told) told

private theorem Runs.onward {last : BuildPoint} (runs : b.Runs p q) (told : p.Told)
    (ends : b.Runs p last) (stays : ∀ r, ¬ b.Advances last r) : b.Runs q last := by
  -- From the front: as long as both runs go on, they go to the same point.
  induction runs using Relation.ReflTransGen.head_induction_on with
  | refl => exact ends
  | head first rest ih =>
    rename_i start second
    rcases Relation.ReflTransGen.cases_head ends with rfl | ⟨other, next, more⟩
    · exact absurd first (stays second)
    · obtain rfl := first.unique told next
      exact ih (first.told told) more

theorem Runs.not_endless {last : BuildPoint} (ends : b.Runs p last) (told : p.Told)
    (stays : ∀ r, ¬ b.Advances last r) :
    ¬ ∃ points : Nat → BuildPoint, points 0 = p ∧ ∀ n, b.Advances (points n) (points (n + 1)) := by
  induction ends using Relation.ReflTransGen.head_induction_on with
  | refl =>
    rintro ⟨points, start, leads⟩
    exact stays _ (start ▸ leads 0)
  | head first rest ih =>
    rintro ⟨points, start, leads⟩
    have same := first.unique told (start ▸ leads 0)
    exact ih (first.told told) ⟨fun n => points (n + 1), same.symm, fun n => leads (n + 1)⟩

end BuildSetting

namespace Manifest

variable (m : Manifest) (options : FlowOptions) (cluster : Option Cluster) (resolve : Resolver)

theorem told_startPoint : m.startPoint.Told := by
  intro c hc
  unfold startPoint openContainers at hc
  dsimp only at hc
  split at hc
  · cases hc
  · obtain ⟨k, -, rfl⟩ := List.mem_map.mp hc
    exact OpenContainer.told_resting _ _ _

theorem not_advances_flowSteps (r : BuildPoint) :
    ¬ (m.buildSetting options cluster resolve).Advances
      ⟨[], [], m.flowSteps options cluster resolve⟩ r := by
  rintro ⟨l, leads⟩
  cases leads

theorem runs_flowSteps_of_reached {p : BuildPoint}
    (reached : (m.buildSetting options cluster resolve).Runs m.startPoint p) :
    (m.buildSetting options cluster resolve).Runs p ⟨[], [], m.flowSteps options cluster resolve⟩ :=
  reached.onward m.told_startPoint (m.runs_flowSteps options cluster resolve)
    (m.not_advances_flowSteps options cluster resolve)

/-- Wherever building gets to, and in whatever order the entries of scopes were listed on the way
and are listed now, a scope gives the same nodes in the same order, each bound directly or not as
before, and a script that is not walked takes the same steps. Building goes on to an end, and the
graph that it has built by then is always the same. -/
theorem flowGraph_unlisted {p : BuildPoint}
    (reached : (m.buildSetting options cluster resolve).Runs m.startPoint p) :
    (∀ c ∈ p.containers, ∀ s ∈ c.scopes, ∀ vars : List (String × Binding), vars.Perm s.vars →
      ({ s with vars } : Scope).tainted.map (fun b => (b.node, b.direct)) =
        s.tainted.map (fun b => (b.node, b.direct)) ∧
      ∀ key cause, c.place.deadEnd { s with vars } key cause = c.place.deadEnd s key cause) ∧
    (∃ q, (m.buildSetting options cluster resolve).Runs p q ∧
      ∀ r, ¬ (m.buildSetting options cluster resolve).Advances q r) ∧
    ((∀ r, ¬ (m.buildSetting options cluster resolve).Advances p r) →
      ({ unit := m.unitId } : Graph).run p.steps = m.flowGraph options cluster resolve) := by
  have onward := m.runs_flowSteps_of_reached options cluster resolve reached
  refine ⟨?_, ⟨_, onward, m.not_advances_flowSteps options cluster resolve⟩, ?_⟩
  · intro c hc s alive vars perm
    have told : s.ToldBy c.place := (reached.told m.told_startPoint c hc).of_mem alive
    exact ⟨told.map_tainted perm, fun key cause => told.deadEnd perm key cause⟩
  · intro stays
    rcases Relation.ReflTransGen.cases_head onward with rfl | ⟨next, leads, _⟩
    · rfl
    · exact absurd leads (stays next)

/-- Two variables that come from one secret are bound to one node, and can be listed in two orders.
-/
theorem flowGraph_unlisted_imported :
    let c : Container := { Container.shell [] "" with
      envFrom := [⟨.secret "db", "", "envFrom[0]"⟩] }
    let m : Manifest := { shellPod [] "" with
      body := .workload { field := "spec", containers := [c] } }
    let b := m.buildSetting .echoing (some { secrets := [("db", ["A", "B"])] }) (.ofTable [])
    ∃ p, b.Runs m.startPoint p ∧ ∃ c ∈ p.containers, ∃ s ∈ c.scopes,
      s.vars.reverse ≠ s.vars ∧
      ({ s with vars := s.vars.reverse } : Scope).tainted.map (fun b => (b.node, b.direct)) =
        s.tainted.map (fun b => (b.node, b.direct)) := by
  intro c m b
  have reached : b.Runs m.startPoint _ := Relation.ReflTransGen.single ⟨.standing, rfl⟩
  refine ⟨_, reached, _, List.mem_cons_self, _, List.mem_cons_self, ?_, ?_⟩
  · decide +kernel
  · exact ((flowGraph_unlisted m _ _ _ reached).1 _ List.mem_cons_self _ List.mem_cons_self _
      (List.reverse_perm _)).1

end Manifest

end SecretFlow

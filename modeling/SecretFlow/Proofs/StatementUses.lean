import SecretFlow.Proofs.GroundedGraphs
import SecretFlow.Proofs.ScriptVisits

set_option autoImplicit false
set_option relaxedAutoImplicit false

/-!
Uses of secrets by statements. Only walking a statement makes a node for a statement, or an edge
into the sink of a statement. So whatever the walk of a script has of these, it has because a
statement of a visited script mentions something in the scope after the statements before it.
-/

namespace SecretFlow

open GraphStep (mem_edgeBetween mem_linkAll)

/-- The step makes a node for a statement, or an edge into a sink. -/
def GraphStep.IsUse : GraphStep → Prop
  | .node n => n.kind = .scriptStatement
  | .edge e => e.relation = .flowsTo
  | .note _ => False

def NoUses (steps : List GraphStep) : Prop :=
  ∀ st ∈ steps, ¬ st.IsUse

namespace NoUses

private theorem nil : NoUses [] :=
  fun _ hst => absurd hst List.not_mem_nil

private theorem cons {st : GraphStep} {steps : List GraphStep} (first : ¬ st.IsUse)
    (rest : NoUses steps) : NoUses (st :: steps) :=
  List.forall_mem_cons.mpr ⟨first, rest⟩

private theorem append {steps more : List GraphStep} (first : NoUses steps) (rest : NoUses more) :
    NoUses (steps ++ more) :=
  List.forall_mem_append.mpr ⟨first, rest⟩

private theorem edgeBetween (source target : NodeId) {relation : Relation}
    (other : relation ≠ .flowsTo) : NoUses (GraphStep.edgeBetween source target relation) := by
  intro st hst
  obtain ⟨-, rfl⟩ := mem_edgeBetween.mp hst
  exact other

theorem linkAll (bindings : List Binding) (target : NodeId) : NoUses (linkAll bindings target) := by
  intro st hst use
  obtain ⟨b, -, -, rfl⟩ := mem_linkAll.mp hst
  revert use
  show (if b.direct = true then Relation.injectsInto else .referencedBy) ≠ .flowsTo
  split <;> simp

private theorem declaration (id : NodeId) (origin : Origin) (payload : Payload) :
    NoUses (GraphStep.declaration id origin payload) :=
  .cons (by simp [GraphStep.IsUse]) (.edgeBetween _ _ (by simp))

private theorem foldl {α : Type} {f : Scope → α → Walked}
    (none : ∀ scope part, NoUses (f scope part).steps)
    (parts : List α) {w : Walked} (start : NoUses w.steps) :
    NoUses (parts.foldl (Walked.andThen f) w).steps :=
  List.foldlRecOn (motive := fun w : Walked => NoUses w.steps) _ _ start
    fun w here part _ => here.append (none w.scope part)

end NoUses

namespace Place

variable (p : Place)

private theorem noUses_lookup (scope : Scope) (name : String) :
    NoUses (p.lookup scope name).steps := by
  unfold lookup
  split
  · exact .nil
  · split
    · exact .nil
    · dsimp only
      split
      · exact .nil
      · refine .cons (by simp [GraphStep.IsUse]) ?_
        intro st hst
        obtain ⟨u, -, hst⟩ := List.mem_flatMap.mp hst
        exact NoUses.edgeBetween _ _ (by simp) st hst

private theorem noUses_lookupAll (scope : Scope) (names : List String) :
    NoUses (p.lookupAll scope names).steps :=
  List.foldlRecOn (motive := fun found : Found => NoUses found.steps) _ _ .nil
    fun found here name _ => here.append (p.noUses_lookup found.scope name)

private theorem noUses_deadEnd (scope : Scope) (key : String) (cause : UnresolvedCause) :
    NoUses (p.deadEnd scope key cause) :=
  .cons (by simp [GraphStep.IsUse]) (.linkAll _ _)

private theorem noUses_envImport (cluster : Option Cluster) (scope : Scope) (e : EnvImport) :
    NoUses (p.envImport cluster scope e).steps := by
  unfold envImport
  split
  · dsimp only
    split
    · exact .declaration _ _ _
    · exact (NoUses.declaration _ _ _).append (.cons (by simp [GraphStep.IsUse]) .nil)
  · exact .nil

private theorem noUses_userNameNotes (policy : IdentifierPolicy) (e : EnvVariable)
    (value : String) : NoUses (p.userNameNotes policy e value) := by
  unfold userNameNotes
  dsimp only
  split
  · exact .cons (by simp [GraphStep.IsUse]) .nil
  · exact .nil

private theorem noUses_envVariable (options : FlowOptions) (scope : Scope) (e : EnvVariable) :
    NoUses (p.envVariable options scope e).steps := by
  unfold envVariable
  dsimp only
  split
  · exact .declaration _ _ _
  · rename_i value _
    have before := (p.noUses_userNameNotes options.identifiers e value).append
      (p.noUses_lookupAll scope (Shell.argumentVariables value))
    split
    · exact before
    · exact before.append (.cons (by simp [GraphStep.IsUse]) (.linkAll _ _))
  · exact .nil

private theorem noUses_volumeMount (volumes : List Volume) (scope : Scope) (m : VolumeMount) :
    NoUses (p.volumeMount volumes scope m).steps := by
  unfold volumeMount
  split
  · exact (NoUses.declaration _ _ _).append
      (.cons (by simp [GraphStep.IsUse]) (.edgeBetween _ _ (by simp)))
  · exact .nil

private theorem noUses_arguments (scope : Scope) (c : Container) :
    NoUses (p.arguments scope c).1.steps := by
  refine List.foldlRecOn (motive := fun w : Walked × List NodeId => NoUses w.1.steps) _ _ .nil ?_
  intro w here arg _
  have looked := here.append (p.noUses_lookupAll w.1.scope
    (addNames (Shell.argumentVariables arg.1) (Shell.variableNames arg.1 true)))
  unfold argument
  dsimp only
  split
  · exact looked
  · exact looked.append (.cons (by simp [GraphStep.IsUse]) (.linkAll _ _))

end Place

private theorem Walked.mem_foldl {α : Type} {f : Scope → α → Walked} {parts : List α} {w : Walked}
    {st : GraphStep} (hst : st ∈ (parts.foldl (andThen f) w).steps) : st ∈ w.steps ∨
      ∃ before part after, parts = before ++ part :: after ∧
        st ∈ (f (before.foldl (andThen f) w).scope part).steps := by
  induction parts generalizing w with
  | nil => exact .inl hst
  | cons first rest ih =>
    rcases ih hst with start | ⟨before, part, after, rfl, taken⟩
    · rcases List.mem_append.mp start with old | new
      · exact .inl old
      · exact .inr ⟨[], first, rest, rfl, new⟩
    · exact .inr ⟨first :: before, part, after, rfl, taken⟩

namespace Place

variable {p : Place} {options : FlowOptions} {resolve : Resolver}

/-- What a statement of a visited script takes because of what it mentions. -/
def usesOn (p : Place) (options : FlowOptions) (v : Visit) (scope : Scope) (s : Shell.Statement) :
    List GraphStep :=
  consumerSteps options.sinks (p.statementId v.ref s) (.script v.ref.key s.line) s
    (p.mentioned v.expanded scope s).bindings

private theorem mem_statementOn_of_use {v : Visit} {scope : Scope} {s : Shell.Statement}
    {st : GraphStep} (use : st.IsUse) (hst : st ∈ (p.statementOn options resolve v scope s).steps) :
    st ∈ p.usesOn options v scope s ∨
      ∃ i, s.invocation = some i ∧
        st ∈ (p.walk options resolve (p.childVisit options v scope s i)).steps := by
  have alone (hst : st ∈ (p.statementAlone options.sinks v.ref v.expanded scope s).steps) :
      st ∈ p.usesOn options v scope s := by
    rcases List.mem_append.mp hst with looked | used
    · exact absurd use (p.noUses_lookupAll scope _ st looked)
    · exact used
  unfold statementOn statement at hst
  dsimp only at hst
  split at hst
  · exact .inl (alone hst)
  · rename_i i invokes
    unfold childVisit walk
    dsimp only
    split at hst
    all_goals
      rename_i mode
      rcases List.mem_append.mp hst with own | child
      · exact .inl (alone own)
      · refine .inr ⟨i, invokes, ?_⟩
        rw [mode]
        exact child

private theorem noUses_walk {v : Visit} (closed : ∀ text, ¬ v.Opens resolve text) :
    NoUses (p.walk options resolve v).steps := by
  obtain ⟨depth, around, expanded, ref, scope⟩ := v
  unfold walk script
  cases depth with
  | zero => exact .cons (by simp [GraphStep.IsUse, note]) (p.noUses_deadEnd _ _ _)
  | succ depth =>
    dsimp only
    split
    · exact .cons (by simp [GraphStep.IsUse, note]) .nil
    · rename_i fresh
      split
      · exact .cons (by simp [GraphStep.IsUse, note]) (p.noUses_deadEnd _ _ _)
      · rename_i text resolved
        exact absurd ⟨Nat.succ_ne_zero depth, by simpa using fresh, resolved⟩ (closed text)

/-- A use is at a statement of a visited script, of what the statement mentions in the scope after
the statements before it. -/
theorem exists_visit_of_use {v : Visit} {st : GraphStep} (use : st.IsUse)
    (hst : st ∈ (p.walk options resolve v).steps) :
    ∃ w text before s after, p.Visits options resolve v w ∧ w.Opens resolve text ∧
      Shell.statements text = before ++ s :: after ∧
      st ∈ p.usesOn options w (p.scopeAfter options resolve w before) s := by
  -- a child visit has one level less
  induction levels : v.depth generalizing v with
  | zero => exact absurd use (noUses_walk (fun _ opens => opens.level levels) st hst)
  | succ depth ih =>
    by_cases closed : ∀ text, ¬ v.Opens resolve text
    · exact absurd use (noUses_walk closed st hst)
    · simp only [not_forall, not_not] at closed
      obtain ⟨text, opens⟩ := closed
      rw [walk_of_opens opens] at hst
      rcases Walked.mem_foldl hst with start | ⟨before, s, after, split, taken⟩
      · cases start
      · rcases mem_statementOn_of_use use taken with used | ⟨i, invokes, further⟩
        · exact ⟨v, text, before, s, after, .itself v, opens, split, used⟩
        · have less : (p.childVisit options v (p.scopeAfter options resolve v before) s i).depth =
              depth := by
            show v.depth - 1 = depth
            rw [levels]
            rfl
          obtain ⟨w, other, earlier, t, later, visits, rest⟩ := ih further less
          exact ⟨w, other, earlier, t, later, .invoked opens split invokes visits, rest⟩

theorem exists_launch_of_use {file : String} {cluster : Option Cluster} {volumes : List Volume}
    {c : Container} (shell : ∀ first ∈ c.argv.head?, Shell.namesShell first = true) {st : GraphStep}
    (use : st.IsUse) (hst : st ∈ container file options cluster resolve volumes c) :
    ∃ l ∈ (ofContainer file volumes c).launches c,
      st ∈ ((ofContainer file volumes c).walk options resolve
        (launchVisit options ((ofContainer file volumes c).launchScope options cluster volumes c)
          l)).steps := by
  rcases List.mem_append.mp hst with before | run
  · have imported := NoUses.foldl ((ofContainer file volumes c).noUses_envImport cluster) c.envFrom
      (w := { scope := {} }) .nil
    have set := NoUses.foldl ((ofContainer file volumes c).noUses_envVariable options) c.env imported
    have mounted := NoUses.foldl ((ofContainer file volumes c).noUses_volumeMount volumes) c.mounts set
    exact absurd use (mounted st before)
  · unfold argv at run
    split at run
    · cases run
    · rename_i first rest args
      have named : Shell.namesShell first = true := shell first (by rw [args]; rfl)
      dsimp only at run
      rw [if_pos named, List.append_nil] at run
      rcases List.mem_append.mp run with argument | launched
      · exact absurd use ((ofContainer file volumes c).noUses_arguments _ c st argument)
      · exact List.mem_flatMap.mp launched

end Place

end SecretFlow

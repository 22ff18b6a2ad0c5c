import SecretFlow.Proofs.ListedScopes

set_option autoImplicit false
set_option relaxedAutoImplicit false

/-!
Scripts inside each other. The stack holds the labels of the scripts that are being walked, each
once; a call is made at the depth that the stack has, and finds the stack again as it was when it
returns. The text of a script is asked for only if there is room for it and it is not being walked
already, so scripts are never nested deeper than the options allow, and building ends whatever the
scripts say.
-/

namespace SecretFlow

def OpenScript.labels (scripts : List OpenScript) : List String :=
  scripts.map (·.call.ref.key)

namespace ScriptCall

structure MadeIn (scripts : List OpenScript) (call : ScriptCall) : Prop where
  depth : call.depth = scripts.length
  entry : call.entry = OpenScript.labels scripts

structure OpensIn (room : Nat) (scripts : List OpenScript) (call : ScriptCall) : Prop
    extends call.MadeIn scripts where
  fits : scripts.length < room
  fresh : call.ref.key ∉ OpenScript.labels scripts

end ScriptCall

inductive Nested (room : Nat) : List OpenScript → Prop
  | nil : Nested room []
  | cons {s : OpenScript} {outer : List OpenScript} : s.call.OpensIn room outer →
      Nested room outer → Nested room (s :: outer)

namespace Nested

variable {room : Nat} {scripts : List OpenScript}

private theorem length_le (nested : Nested room scripts) : scripts.length ≤ room := by
  cases nested with
  | nil => exact Nat.zero_le room
  | cons opened _ =>
    have fits := opened.fits
    rw [List.length_cons]
    omega

private theorem nodup (nested : Nested room scripts) : (OpenScript.labels scripts).Nodup := by
  induction nested with
  | nil => exact List.nodup_nil
  | cons opened _ ih => exact List.nodup_cons.mpr ⟨opened.fresh, ih⟩

end Nested

def Activity.Fits (room : Nat) (scripts : List OpenScript) : Activity → Prop
  | .working => True
  | .calling call => call.MadeIn scripts
  | .resolving call => call.OpensIn room scripts
  | .returning call _ => call.entry = OpenScript.labels scripts

/-- A container whose scripts are nested, with their labels on the stack. -/
structure OpenContainer.Stacked (room : Nat) (stack : List String) (c : OpenContainer) : Prop where
  labels : stack = OpenScript.labels c.scripts
  nested : Nested room c.scripts
  fits : c.activity.Fits room c.scripts

def OpenContainer.AtRest (c : OpenContainer) : Prop :=
  c.activity = .working ∧ c.scripts = []

namespace OpenContainer

variable {b : BuildSetting} {l : Listing} {stack : List String} {c : OpenContainer}

private theorem AtRest.stacked (rest : c.AtRest) (room : Nat) : c.Stacked room [] := by
  obtain ⟨doing, scripts⟩ := rest
  refine ⟨?_, ?_, ?_⟩
  · rw [scripts]
    rfl
  · rw [scripts]
    exact .nil
  · rw [doing]
    trivial

private theorem Stacked.innermost {room : Nat} (stacked : c.Stacked room stack) {s : OpenScript}
    {outer : List OpenScript} (scripts : c.scripts = s :: outer) :
    stack = s.call.ref.key :: OpenScript.labels outer ∧ s.call.OpensIn room outer ∧
      Nested room outer := by
  have nested := stacked.nested
  have labels := stacked.labels
  rw [scripts] at nested labels
  cases nested with
  | cons opened nested => exact ⟨labels, opened, nested⟩

private theorem stacked_enter (stacked : c.Stacked b.options.maxReferenceDepth stack)
    {call : ScriptCall} (made : call.MadeIn c.scripts) :
    (c.enter b l stack call).container.Stacked b.options.maxReferenceDepth
      (c.enter b l stack call).stack := by
  unfold enter
  dsimp only
  split
  · exact ⟨stacked.labels, stacked.nested, made.entry⟩
  · rename_i shallow
    split
    · exact ⟨stacked.labels, stacked.nested, made.entry⟩
    · rename_i absent
      refine ⟨stacked.labels, stacked.nested, made, ?_, ?_⟩
      · show c.scripts.length < b.options.maxReferenceDepth
        have depth := made.depth
        omega
      · rw [← stacked.labels]
        simpa using absent

private theorem stacked_ask {room : Nat} (stacked : c.Stacked room stack) {call : ScriptCall}
    (opens : call.OpensIn room c.scripts) :
    (c.ask b l stack call).container.Stacked room (c.ask b l stack call).stack := by
  unfold ask
  dsimp only
  split
  · exact ⟨stacked.labels, stacked.nested, opens.entry⟩
  · refine ⟨?_, .cons opens stacked.nested, trivial⟩
    rw [stacked.labels]
    rfl

private theorem stacked_resume {room : Nat} (stacked : c.Stacked room stack) (call : ScriptCall)
    (scope : Scope) : (c.resume call scope).Stacked room stack := by
  unfold resume
  split
  · exact ⟨stacked.labels, stacked.nested, trivial⟩
  · rename_i s outer scripts
    obtain ⟨labels, opened, nested⟩ := stacked.innermost scripts
    exact ⟨labels, .cons opened nested, trivial⟩

private theorem stacked_close {room : Nat} (stacked : c.Stacked room stack) {s : OpenScript}
    {outer : List OpenScript} (scripts : c.scripts = s :: outer) :
    ({ c with scripts := outer, activity := .returning s.call s.scope } : OpenContainer).Stacked room
      stack.tail := by
  obtain ⟨labels, opened, nested⟩ := stacked.innermost scripts
  refine ⟨?_, nested, opened.entry⟩
  rw [labels, List.tail_cons]

private theorem stacked_walkNext {room : Nat} (stacked : c.Stacked room stack) {s : OpenScript}
    {outer : List OpenScript} (scripts : c.scripts = s :: outer) (next : Shell.Statement)
    (left : List Shell.Statement) :
    (c.walkNext b stack s outer next left).container.Stacked room stack := by
  obtain ⟨labels, opened, nested⟩ := stacked.innermost scripts
  refine ⟨labels, .cons opened nested, ?_⟩
  simp only [walkNext]
  cases next.invocation with
  | none => trivial
  | some i =>
    refine ⟨?_, labels⟩
    show s.call.depth + 1 = outer.length + 1
    rw [opened.depth]

private theorem stacked_perform {room : Nat} (stacked : c.Stacked room stack)
    (scripts : c.scripts = []) (left : List Chore) (chore : Chore) :
    (c.perform b stack left chore).container.Stacked room (c.perform b stack left chore).stack := by
  cases chore with
  | launching launch =>
    refine ⟨stacked.labels, stacked.nested, ?_, stacked.labels⟩
    show 0 = c.scripts.length
    rw [scripts]
    rfl
  | _ => exact ⟨stacked.labels, stacked.nested, stacked.fits⟩

private theorem Stacked.move {next : Move} (stacked : c.Stacked b.options.maxReferenceDepth stack)
    (moves : c.Moves b l stack next) :
    next.container.Stacked b.options.maxReferenceDepth next.stack := by
  have fits := stacked.fits
  cases moves with
  | enter call doing =>
    rw [doing] at fits
    exact stacked_enter stacked fits
  | ask call doing =>
    rw [doing] at fits
    exact stacked_ask stacked fits
  | resume call scope _ => exact stacked_resume stacked call scope
  | close s outer _ scripts => exact stacked_close stacked scripts
  | walk s outer next left _ scripts => exact stacked_walkNext stacked scripts next left
  | perform left chore _ scripts => exact stacked_perform stacked scripts left chore

end OpenContainer

/-- The scripts of the first container are nested, and nothing is walked in the others yet. -/
def BuildPoint.Stacked (room : Nat) (p : BuildPoint) : Prop :=
  match p.containers with
  | [] => p.stack = []
  | c :: others => c.Stacked room p.stack ∧ ∀ d ∈ others, d.AtRest

namespace BuildPoint

variable {room : Nat} {p : BuildPoint}

private theorem stacked_nil {others : List OpenContainer} (rest : ∀ d ∈ others, d.AtRest)
    (steps : List GraphStep) : Stacked room ⟨[], others, steps⟩ := by
  cases others with
  | nil => rfl
  | cons c others =>
    exact ⟨(rest c List.mem_cons_self).stacked room, fun d hd => rest d (List.mem_cons_of_mem _ hd)⟩

private theorem Stacked.of_mem (stacked : p.Stacked room) {c : OpenContainer}
    (hc : c ∈ p.containers) : c.AtRest ∨ c.Stacked room p.stack := by
  unfold Stacked at stacked
  split at stacked
  · rename_i containers
    rw [containers] at hc
    cases hc
  · rename_i first others containers
    rw [containers] at hc
    rcases List.mem_cons.mp hc with rfl | other
    · exact .inr stacked.1
    · exact .inl (stacked.2 c other)

end BuildPoint

namespace BuildSetting

variable {b : BuildSetting} {p q : BuildPoint}

private theorem Advances.stacked (next : b.Advances p q)
    (stacked : p.Stacked b.options.maxReferenceDepth) :
    q.Stacked b.options.maxReferenceDepth := by
  obtain ⟨c, others, containers, leads⟩ := next.cases
  unfold BuildPoint.Stacked at stacked
  rw [containers] at stacked
  obtain ⟨first, rest⟩ := stacked
  rcases leads with ⟨l, move, moves, rfl⟩ | ⟨_, scripts, rfl⟩
  · exact ⟨first.move moves, rest⟩
  · have empty : p.stack = [] := by
      rw [first.labels, scripts]
      rfl
    show BuildPoint.Stacked _ ⟨p.stack, others, p.steps⟩
    rw [empty]
    exact BuildPoint.stacked_nil rest p.steps

private theorem Runs.stacked (runs : b.Runs p q) (stacked : p.Stacked b.options.maxReferenceDepth) :
    q.Stacked b.options.maxReferenceDepth :=
  runs.keeps (fun _ _ next => next.stacked) stacked

/-- Where building goes next depends on no answer but to the call for which a text is asked. -/
private theorem advance_congr_resolve {other : Resolver}
    (same : ∀ c ∈ p.containers, ∀ call, c.activity = .resolving call →
      other call.ref = b.resolve call.ref) (l : Listing) :
    ({ b with resolve := other } : BuildSetting).advance l p = b.advance l p := by
  unfold advance
  cases containers : p.containers with
  | nil => rfl
  | cons c others =>
    have moves : c.move { b with resolve := other } l p.stack = c.move b l p.stack := by
      unfold OpenContainer.move
      cases doing : c.activity with
      | resolving call =>
        have answer := same c (by rw [containers]; exact List.mem_cons_self) call doing
        simp only [OpenContainer.ask, answer]
      | _ => rfl
    simp only [moves]

end BuildSetting

namespace Manifest

variable (m : Manifest) (options : FlowOptions) (cluster : Option Cluster) (resolve : Resolver)

private theorem stacked_startPoint (room : Nat) : m.startPoint.Stacked room := by
  refine BuildPoint.stacked_nil ?_ _
  intro d hd
  unfold openContainers at hd
  split at hd
  · cases hd
  · obtain ⟨k, -, rfl⟩ := List.mem_map.mp hd
    exact ⟨rfl, rfl⟩

/-- Wherever building gets to, a script is called at the depth that the stack has, with distinct
labels on it, and never deeper than the options allow. Its text is asked for only below that depth
and if its label is not on the stack, and no other answer matters. When the call returns, the stack
is as it was. Scripts are nested no deeper than the options allow, no run goes on for ever, and one
that has come to its end has walked everything. -/
theorem script_stack_kept {p : BuildPoint}
    (reached : (m.buildSetting options cluster resolve).Runs m.startPoint p) :
    (∀ c ∈ p.containers, c.scripts.length ≤ options.maxReferenceDepth ∧
      (∀ call, c.activity = .calling call → p.stack.length = call.depth ∧
        call.depth ≤ options.maxReferenceDepth ∧ p.stack.Nodup ∧ call.entry = p.stack) ∧
      (∀ call, c.activity = .resolving call → call.depth < options.maxReferenceDepth ∧
        call.ref.key ∉ p.stack) ∧
      ∀ call scope, c.activity = .returning call scope → p.stack = call.entry) ∧
    (∀ other : Resolver, (∀ c ∈ p.containers, ∀ call, c.activity = .resolving call →
        other call.ref = resolve call.ref) →
      ∀ l, (m.buildSetting options cluster other).advance l p =
        (m.buildSetting options cluster resolve).advance l p) ∧
    (¬ ∃ points : Nat → BuildPoint, points 0 = p ∧
      ∀ n, (m.buildSetting options cluster resolve).Advances (points n) (points (n + 1))) ∧
    ((∀ r, ¬ (m.buildSetting options cluster resolve).Advances p r) →
      p = ⟨[], [], m.flowSteps options cluster resolve⟩) := by
  have stacked := reached.stacked (m.stacked_startPoint _)
  have told := reached.told m.told_startPoint
  have onward := m.runs_flowSteps_of_reached options cluster resolve reached
  have stays := m.not_advances_flowSteps options cluster resolve
  refine ⟨?_, fun other same l =>
    BuildSetting.advance_congr_resolve (b := m.buildSetting options cluster resolve) same l,
    onward.not_endless told stays, ?_⟩
  · intro c hc
    rcases stacked.of_mem hc with ⟨doing, scripts⟩ | first
    · simp [doing, scripts]
    · have fits := first.fits
      have length : p.stack.length = c.scripts.length := by
        rw [first.labels, OpenScript.labels, List.length_map]
      refine ⟨first.nested.length_le, ?_, ?_, ?_⟩
      · intro call doing
        rw [doing] at fits
        refine ⟨length.trans fits.depth.symm, ?_, ?_, fits.entry.trans first.labels.symm⟩
        · rw [fits.depth]
          exact first.nested.length_le
        · rw [first.labels]
          exact first.nested.nodup
      · intro call doing
        rw [doing] at fits
        rw [fits.depth, first.labels]
        exact ⟨fits.fits, fits.fresh⟩
      · intro call scope doing
        rw [doing] at fits
        exact first.labels.trans fits.symm
  · intro stops
    rcases Relation.ReflTransGen.cases_head onward with same | ⟨next, leads, _⟩
    · exact same
    · exact absurd leads (stops next)

/-- A script that reads another one into its shell: the second call is made with one label on the
stack. -/
theorem script_stack_kept_sourced :
    let m := shellPod [] ". /b.sh"
    let b := m.buildSetting .echoing none (.ofTable [])
    ∃ p, b.Runs m.startPoint p ∧ ∃ c ∈ p.containers, ∃ call, c.activity = .calling call ∧
      call.depth = 1 ∧ p.stack.length = call.depth ∧ call.entry = p.stack := by
  intro m b
  let k := Container.shell [] ". /b.sh"
  let place := Place.ofContainer "pod.yaml" [] k
  have chores : place.chores k = (Place.plainArguments k).map .reading ++
      [.launching ⟨.inline "app" ". /b.sh", true⟩] := by
    have launches : place.launches k = [⟨.inline "app" ". /b.sh", true⟩] := by decide +kernel
    have shell : Shell.namesShell "sh" = true := by decide +kernel
    show (Place.plainArguments k).map Chore.reading ++
      ((if Shell.namesShell "sh" then [] else [.sinking]) ++ (place.launches k).map .launching) = _
    rw [launches, if_pos shell]
    rfl
  have parsed : Shell.statements ". /b.sh" =
      [⟨1, 0, ". /b.sh", none, [], none, some ⟨"/b.sh", .source⟩⟩] := by
    decide +kernel
  have started := BuildSetting.runs_arguments (b := b) (p := place) (k := k) []
    (Place.plainArguments k) ({ scope := {} }, []) [.launching ⟨.inline "app" ". /b.sh", true⟩]
    (m.openingSteps)
  rw [← chores, List.append_nil] at started
  -- The text is launched, entered and opened, and then its only statement is walked.
  have opened := started.trans (BuildSetting.Runs.move rfl (BuildSetting.Runs.move rfl
    (BuildSetting.Runs.move rfl (.refl _))))
  have walks {c : OpenContainer} {s : OpenScript} {outer : List OpenScript} {stack : List String}
      {next : Shell.Statement} {left : List Shell.Statement} (doing : c.activity = .working)
      (scripts : c.scripts = s :: outer) (statements : s.left = next :: left) :
      c.move b .standing stack = some (c.walkNext b stack s outer next left) := by
    simp only [OpenContainer.move, doing, scripts, statements]
  have reached := opened.trans (BuildSetting.Runs.move (walks rfl rfl parsed) (.refl _))
  have kept := (script_stack_kept m _ _ _ reached).1 _ List.mem_cons_self
  obtain ⟨length, -, -, entry⟩ := kept.2.1 _ rfl
  exact ⟨_, reached, _, List.mem_cons_self, _, rfl, rfl, length, entry⟩

end Manifest

end SecretFlow

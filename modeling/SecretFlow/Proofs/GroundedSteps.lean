import SecretFlow.Proofs.NodeNames

set_option autoImplicit false
set_option relaxedAutoImplicit false

/-!
The steps in which a flow graph is built are grounded: secrets are declared before they are used,
every node that is linked stands for something that mentions a node made before it, and a script
that is not walked is noted as such. What a step may do is said once, by the rules of `Grounded`;
what holds of built graphs follows from the rules.
-/

namespace SecretFlow

/-- Kinds of nodes, other than declarations, to which names and paths are bound. -/
def NodeKind.holds : NodeKind → Bool
  | .envVarRef | .volumeMountRef | .scriptStatement => true
  | _ => false

def NodeKind.uses : NodeKind → Bool
  | .commandArg | .scriptStatement => true
  | _ => false

/-- The node of a binding was made by one of the steps, as a declaration if it is bound directly. -/
def Binding.HeldBy (b : Binding) (steps : List GraphStep) : Prop :=
  ∃ n, .node n ∈ steps ∧ n.id = b.node ∧
    if b.direct then n.kind = .secretDeclaration else n.kind.holds = true

def UsedBy (id : NodeId) (steps : List GraphStep) : Prop :=
  ∃ n, .node n ∈ steps ∧ n.id = id ∧ n.kind.uses = true

/-- The ways to build a graph, given which nodes may be named how. -/
inductive Grounded (named : Node → Prop) : List GraphStep → Prop
  | root {n : Node} : n.id = GraphStep.rootId → n.kind = .manifestRoot → Grounded named [.node n]
  | note {steps : List GraphStep} (d : Diagnostic) : Grounded named steps →
      Grounded named (steps ++ [.note d])
  | declare {steps : List GraphStep} {id : NodeId} {origin : Origin} {payload : Payload} :
      Grounded named steps → named ⟨id, .secretDeclaration, some origin, payload⟩ →
      Grounded named (steps ++ GraphStep.declaration id origin payload)
  | carry {steps : List GraphStep} {n : Node} {bindings : List Binding} : Grounded named steps →
      named n → (n.kind.holds || n.kind.uses) = true → bindings ≠ [] →
      (∀ b ∈ bindings, b.HeldBy steps) →
      Grounded named (steps ++ .node n :: linkAll bindings n.id)
  | sink {steps : List GraphStep} {n : Node} {kind : SinkKind} {pattern : String}
      (users : List NodeId) : Grounded named steps → named n →
      n.kind = .externalSink kind pattern → (∀ id ∈ users, UsedBy id steps) →
      Grounded named (steps ++ .node n :: users.flatMap fun id =>
        GraphStep.edgeBetween id n.id .flowsTo)
  | deadEnd {steps : List GraphStep} {n : Node} {cause : UnresolvedCause} {d : Diagnostic}
      {bindings : List Binding} : Grounded named steps → named n → n.kind = .unresolved cause →
      d.kind.degrades = true → (∀ b ∈ bindings, b.HeldBy steps) →
      Grounded named (steps ++ .note d :: .node n :: linkAll bindings n.id)

theorem Binding.heldBy_new {n : Node} (steps more : List GraphStep) (holds : n.kind.holds = true)
    (exported : Bool) : Binding.HeldBy ⟨n.id, false, exported⟩ (steps ++ .node n :: more) :=
  ⟨n, List.mem_append_right _ List.mem_cons_self, rfl, holds⟩

theorem Binding.heldBy_declaration (steps : List GraphStep) (id : NodeId) (origin : Origin)
    (payload : Payload) :
    (Binding.toDeclaration id).HeldBy (steps ++ GraphStep.declaration id origin payload) :=
  ⟨⟨id, .secretDeclaration, some origin, payload⟩, List.mem_append_right _ List.mem_cons_self,
    rfl, rfl⟩

theorem usedBy_new {n : Node} (steps more : List GraphStep) (uses : n.kind.uses = true) :
    UsedBy n.id (steps ++ .node n :: more) :=
  ⟨n, List.mem_append_right _ List.mem_cons_self, rfl, uses⟩

theorem Binding.HeldBy.append {b : Binding} {steps : List GraphStep} (held : b.HeldBy steps)
    (more : List GraphStep) : b.HeldBy (steps ++ more) := by
  obtain ⟨n, hn, rest⟩ := held
  exact ⟨n, List.mem_append_left _ hn, rest⟩

theorem UsedBy.append {id : NodeId} {steps : List GraphStep} (used : UsedBy id steps)
    (more : List GraphStep) : UsedBy id (steps ++ more) := by
  obtain ⟨n, hn, rest⟩ := used
  exact ⟨n, List.mem_append_left _ hn, rest⟩

namespace Scope

def bindings (s : Scope) : List Binding :=
  s.vars.map (·.2) ++ s.unknown.map (fun u => .toDeclaration u.2) ++
    s.mounts.map (fun m => .toReference m.2)

theorem mem_bindings_of_get? {s : Scope} {name : String} {b : Binding}
    (found : s.get? name = some b) : b ∈ s.bindings := by
  obtain ⟨v, hv, rfl⟩ := Option.map_eq_some_iff.mp found
  simp only [bindings, List.mem_append, List.mem_map]
  exact .inl (.inl ⟨v, List.mem_of_find?_eq_some hv, rfl⟩)

theorem mem_bindings_bind {s : Scope} {name : String} {b c : Binding}
    (hb : b ∈ (s.bind name c).bindings) : b = c ∨ b ∈ s.bindings := by
  simp only [bindings, bind, List.map_cons, List.mem_append, List.mem_cons, List.mem_map,
    List.mem_filter] at hb ⊢
  rcases hb with ((new | ⟨v, ⟨hv, _⟩, rfl⟩) | unknown) | mount
  · exact .inl new
  · exact .inr (.inl (.inl ⟨v, hv, rfl⟩))
  · exact .inr (.inl (.inr unknown))
  · exact .inr (.inr mount)

theorem mem_bindings_clear {s : Scope} {name : String} {b : Binding}
    (hb : b ∈ (s.clear name).bindings) : b ∈ s.bindings := by
  simp only [bindings, clear, List.mem_append, List.mem_map, List.mem_filter] at hb ⊢
  rcases hb with (⟨v, ⟨hv, _⟩, rfl⟩ | unknown) | mount
  · exact .inl (.inl ⟨v, hv, rfl⟩)
  · exact .inl (.inr unknown)
  · exact .inr mount

theorem mem_bindings_addUnknown {s : Scope} {start : String} {id : NodeId} {b : Binding}
    (hb : b ∈ ({ s with unknown := s.unknown ++ [(start, id)] } : Scope).bindings) :
    b = .toDeclaration id ∨ b ∈ s.bindings := by
  simp only [bindings, List.map_append, List.map_singleton, List.mem_append,
    List.mem_singleton] at hb ⊢
  rcases hb with (var | old | new) | mount
  · exact .inr (.inl (.inl var))
  · exact .inr (.inl (.inr old))
  · exact .inl new
  · exact .inr (.inr mount)

theorem mem_bindings_addMount {s : Scope} {path : String} {id : NodeId} {b : Binding}
    (hb : b ∈ ({ s with mounts := s.mounts ++ [(path, id)] } : Scope).bindings) :
    b = .toReference id ∨ b ∈ s.bindings := by
  simp only [bindings, List.map_append, List.map_singleton, List.mem_append,
    List.mem_singleton] at hb ⊢
  rcases hb with (var | unknown) | old | new
  · exact .inr (.inl (.inl var))
  · exact .inr (.inl (.inr unknown))
  · exact .inr (.inr old)
  · exact .inl new

theorem mem_bindings_exported {s : Scope} {b : Binding} (hb : b ∈ s.exported.bindings) :
    b ∈ s.bindings := by
  simp only [bindings, exported, List.mem_append, List.mem_map, List.mem_filter] at hb ⊢
  rcases hb with (⟨v, ⟨hv, _⟩, rfl⟩ | unknown) | mount
  · exact .inl (.inl ⟨v, hv, rfl⟩)
  · exact .inl (.inr unknown)
  · exact .inr mount

private theorem mem_of_mem_dropRepeats {b : Binding} {all : List Binding}
    (hb : b ∈ dropRepeats all) : b ∈ all := by
  induction all with
  | nil => exact hb
  | cons a rest ih =>
    simp only [dropRepeats] at hb
    split at hb
    · rename_i empty
      exact List.mem_cons.mpr (.inl (by simpa using hb))
    · rename_i c others repeats
      rw [repeats] at ih
      split at hb
      · rcases List.mem_cons.mp hb with rfl | hb
        · exact List.mem_cons_self
        · exact List.mem_cons_of_mem _ (ih (List.mem_cons_of_mem _ hb))
      · rcases List.mem_cons.mp hb with rfl | hb
        · exact List.mem_cons_self
        · exact List.mem_cons_of_mem _ (ih hb)

theorem mem_bindings_of_tainted {s : Scope} {b : Binding} (hb : b ∈ s.tainted) :
    b ∈ s.bindings := by
  simpa [bindings] using mem_of_mem_dropRepeats hb

end Scope

structure Ready (named : Node → Prop) (steps : List GraphStep) (s : Scope) : Prop where
  grounded : Grounded named steps
  held : ∀ b ∈ s.bindings, b.HeldBy steps

namespace Ready

variable {named : Node → Prop} {steps more : List GraphStep} {s : Scope}

theorem extend (ready : Ready named steps s) (grounded : Grounded named (steps ++ more)) :
    Ready named (steps ++ more) s :=
  ⟨grounded, fun b hb => (ready.held b hb).append more⟩

theorem note (ready : Ready named steps s) (d : Diagnostic) :
    Ready named (steps ++ [.note d]) s :=
  ready.extend (ready.grounded.note d)

theorem clear (ready : Ready named steps s) (name : String) : Ready named steps (s.clear name) :=
  ⟨ready.grounded, fun b hb => ready.held b (Scope.mem_bindings_clear hb)⟩

theorem exported (ready : Ready named steps s) : Ready named steps s.exported :=
  ⟨ready.grounded, fun b hb => ready.held b (Scope.mem_bindings_exported hb)⟩

theorem bind (ready : Ready named steps s) (name : String) {b : Binding} (held : b.HeldBy steps) :
    Ready named steps (s.bind name b) := by
  refine ⟨ready.grounded, ?_⟩
  intro c hc
  rcases Scope.mem_bindings_bind hc with rfl | hc
  · exact held
  · exact ready.held c hc

theorem addUnknown (ready : Ready named steps s) (start : String) {id : NodeId}
    (held : (Binding.toDeclaration id).HeldBy steps) :
    Ready named steps { s with unknown := s.unknown ++ [(start, id)] } := by
  refine ⟨ready.grounded, ?_⟩
  intro b hb
  rcases Scope.mem_bindings_addUnknown hb with rfl | old
  · exact held
  · exact ready.held b old

theorem addMount (ready : Ready named steps s) (path : String) {id : NodeId}
    (held : (Binding.toReference id).HeldBy steps) :
    Ready named steps { s with mounts := s.mounts ++ [(path, id)] } := by
  refine ⟨ready.grounded, ?_⟩
  intro b hb
  rcases Scope.mem_bindings_addMount hb with rfl | old
  · exact held
  · exact ready.held b old

theorem foldl {α : Type} {f : Scope → α → Walked} {items : List α}
    (step : ∀ a ∈ items, ∀ st sc, Ready named st sc →
      Ready named (st ++ (f sc a).steps) (f sc a).scope)
    {w : Walked} (ready : Ready named (steps ++ w.steps) w.scope) :
    Ready named (steps ++ (items.foldl (Walked.andThen f) w).steps)
      (items.foldl (Walked.andThen f) w).scope := by
  induction items generalizing w with
  | nil => exact ready
  | cons a rest ih =>
    rw [List.foldl_cons]
    refine ih (fun b hb => step b (List.mem_cons_of_mem _ hb)) ?_
    have next := step a List.mem_cons_self _ _ ready
    rwa [List.append_assoc] at next

end Ready

end SecretFlow

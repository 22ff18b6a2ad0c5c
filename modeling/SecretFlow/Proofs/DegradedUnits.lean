import SecretFlow.Proofs.GroundedGraphs
import SecretFlow.Proofs.LeakPaths
import SecretFlow.Scan

set_option autoImplicit false
set_option relaxedAutoImplicit false

/-!
A unit that is not reported as degraded was analysed completely. What is left out leaves a trace: a
script that is not inspected is noted when its node is made, and a limit that stops mining is noted
in the report.
-/

namespace SecretFlow

private theorem Grounded.exists_note {named : Node → Prop} {steps : List GraphStep}
    (grounded : Grounded named steps) {n : Node} (hn : .node n ∈ steps)
    (unresolved : n.kind.isUnresolved = true) :
    ∃ d, .note d ∈ steps ∧ d.kind.degrades = true := by
  cases grounded.made hn with
  | root _ kind | declaration _ kind | sink _ kind =>
    rw [kind] at unresolved
    cases unresolved
  | carrier _ carries =>
    generalize n.kind = kind at carries unresolved
    cases kind <;> simp [NodeKind.isUnresolved, NodeKind.holds, NodeKind.uses] at *
  | deadEnd _ _ noted degrades => exact ⟨_, noted, degrades⟩

theorem LeakReason.ofPath_eq_unverifiableReference {last : NodeKind} {confidence : Confidence} :
    LeakReason.ofPath last confidence = .unverifiableReference ↔ last.isUnresolved = true := by
  unfold ofPath
  cases last.isUnresolved <;> cases confidence <;> simp

private theorem NodeKind.exists_sink_of_isTerminal {k : NodeKind} (terminal : k.isTerminal = true)
    (inspected : ¬ k.isUnresolved = true) : ∃ sink pattern, k = .externalSink sink pattern := by
  cases k with
  | externalSink sink pattern => exact ⟨sink, pattern, rfl⟩
  | unresolved _ => exact absurd rfl inspected
  | _ => cases terminal

namespace Analysis

section Report

variable {a : Analysis} {resolve : Resolver} {m : Manifest}

private theorem wellFormed_graphWith : (a.graphWith resolve m).WellFormed :=
  wellFormed_graphOf _ _

private theorem degraded_of_unresolved {n : Node} (hn : n ∈ (a.graphWith resolve m).nodes)
    (unresolved : n.kind.isUnresolved = true) : (a.unitReportWith resolve m).degraded = true := by
  have grounded := m.grounded_flowSteps a.options (some a.cluster) resolve
  obtain ⟨d, noted, degrades⟩ := grounded.exists_note (node_step_of_mem hn) unresolved
  exact List.any_eq_true.mpr
    ⟨d, List.mem_append_left _ (Graph.mem_run_diagnostics noted _), degrades⟩

private theorem degraded_of_unverifiable {f : Finding}
    (hf : f ∈ (a.unitReportWith resolve m).findings) (reason : f.reason = .unverifiableReference) :
    (a.unitReportWith resolve m).degraded = true := by
  obtain ⟨path, first, last, leak, _, ends, rfl⟩ :=
    Graph.tells_of_mem_mine wellFormed_graphWith hf
  exact degraded_of_unresolved (leak.inGraph last (List.mem_of_getLast? ends))
    (LeakReason.ofPath_eq_unverifiableReference.mp reason)

private theorem any_truncationNote (mined : Mined) :
    (truncationNote mined).any (·.kind.degrades) = mined.truncated.isSome := by
  unfold truncationNote
  split <;> simp [*, DiagnosticKind.degrades]

private theorem truncated_of_not_degraded (whole : (a.unitReportWith resolve m).degraded = false) :
    ((a.graphWith resolve m).mine a.limits).truncated = none := by
  have both := List.any_append.symm.trans whole
  rw [Bool.or_eq_false_iff, any_truncationNote, Option.isSome_eq_false_iff,
    Option.isNone_iff_eq_none] at both
  exact both.2

private theorem ends_at_sink_of_not_degraded (whole : (a.unitReportWith resolve m).degraded = false)
    {limit : Nat} {path : List Node} (leak : (a.graphWith resolve m).LeakPath limit path) :
    ∃ last sink pattern, path.getLast? = some last ∧ last.kind = .externalSink sink pattern := by
  obtain ⟨last, ends, terminal⟩ := leak.ends
  have inspected : ¬ last.kind.isUnresolved = true := by
    intro unresolved
    have degraded :=
      degraded_of_unresolved (leak.inGraph last (List.mem_of_getLast? ends)) unresolved
    rw [whole] at degraded
    cases degraded
  obtain ⟨sink, pattern, kind⟩ := NodeKind.exists_sink_of_isTerminal terminal inspected
  exact ⟨last, sink, pattern, ends, kind⟩

end Report

/-- However scripts are found, a unit with a finding that could not be verified, or with a script
that was not inspected, is degraded. If the unit is not degraded, its findings are the leak paths of
its graph, each reported once, and all of them end at sinks. -/
theorem complete_of_not_degraded (a : Analysis) (resolve : Resolver) (m : Manifest) :
    let g := a.graphWith resolve m
    let u := a.unitReportWith resolve m
    ((∃ f ∈ u.findings, f.reason = .unverifiableReference) ∨
        (∃ n ∈ g.nodes, n.kind.isUnresolved = true) → u.degraded = true) ∧
    (u.degraded = false →
      (∀ f ∈ u.findings, ∃ path, g.LeakPath a.limits.pathEdges path ∧ f.path = path.map (·.id)) ∧
      (u.findings.map (·.path)).Nodup ∧
      ∀ path, g.LeakPath a.limits.pathEdges path →
        (∃ f ∈ u.findings, f.path = path.map (·.id)) ∧
        ∃ last sink pattern, path.getLast? = some last ∧
          last.kind = .externalSink sink pattern) := by
  intro g u
  refine ⟨?_, ?_⟩
  · rintro (⟨f, hf, reason⟩ | ⟨n, hn, unresolved⟩)
    · exact degraded_of_unverifiable hf reason
    · exact degraded_of_unresolved hn unresolved
  · intro whole
    refine ⟨?_, Graph.nodup_mine wellFormed_graphWith a.limits, ?_⟩
    · intro f hf
      obtain ⟨path, _, _, leak, _, _, rfl⟩ := Graph.tells_of_mem_mine wellFormed_graphWith hf
      exact ⟨path, leak, rfl⟩
    · intro path leak
      have reported := Graph.exists_mem_mine wellFormed_graphWith
        (truncated_of_not_degraded whole) leak
      exact ⟨reported, ends_at_sink_of_not_degraded whole leak⟩

end Analysis

end SecretFlow

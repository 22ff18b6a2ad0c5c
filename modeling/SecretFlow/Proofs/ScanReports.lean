import Mathlib.Data.List.Forall2
import Mathlib.Data.List.Induction
import SecretFlow.Command.Run

set_option autoImplicit false
set_option relaxedAutoImplicit false

/-!
Reports and their verdicts. The verdict is reached from the findings of all units together, before
any is left out, and the findings are left out unit by unit; both agree, however the findings are
spread over the units. A policy that leaves out more, or fails later, passes whatever the first one
passes.
-/

namespace SecretFlow

private theorem Confidence.eq_of_rank {a b : Confidence} (same : a.rank = b.rank) : a = b := by
  cases a <;> cases b <;> first | rfl | cases same

namespace Policy

def IsHighest (c : Confidence) (cs : List Confidence) : Prop :=
  c ∈ cs ∧ ∀ d ∈ cs, d.rank ≤ c.rank

private theorem IsHighest.unique {c d : Confidence} {cs : List Confidence} (first : IsHighest c cs)
    (second : IsHighest d cs) : c = d :=
  Confidence.eq_of_rank (Nat.le_antisymm (second.2 c first.1) (first.2 d second.1))

private theorem highest_concat (cs : List Confidence) (d : Confidence) :
    highest (cs ++ [d]) = match highest cs with
      | none => some d
      | some b => if b.rank ≤ d.rank then some d else some b := by
  rw [highest, List.foldl_append]
  rfl

private theorem exists_highest (cs : List Confidence) (some_left : cs ≠ []) :
    ∃ c, highest cs = some c ∧ IsHighest c cs := by
  induction cs using List.reverseRecOn with
  | nil => exact absurd rfl some_left
  | append_singleton cs d ih =>
    rw [highest_concat]
    by_cases first : cs = []
    · subst first
      exact ⟨d, rfl, by simp [IsHighest]⟩
    · obtain ⟨b, found, among, top⟩ := ih first
      simp only [found]
      by_cases rises : b.rank ≤ d.rank
      · refine ⟨d, if_pos rises, by simp, ?_⟩
        intro c hc
        rcases List.mem_append.mp hc with old | new
        · exact Nat.le_trans (top c old) rises
        · exact Nat.le_of_eq (congrArg _ (List.mem_singleton.mp new))
      · refine ⟨b, if_neg rises, List.mem_append_left _ among, ?_⟩
        intro c hc
        rcases List.mem_append.mp hc with old | new
        · exact top c old
        · rw [List.mem_singleton.mp new]
          omega

private theorem highest_eq_none_iff {cs : List Confidence} : highest cs = none ↔ cs = [] := by
  constructor
  · intro none_found
    by_contra some_left
    obtain ⟨c, found, _⟩ := exists_highest cs some_left
    rw [none_found] at found
    cases found
  · rintro rfl
    rfl

private theorem highest_eq_some_iff {cs : List Confidence} {c : Confidence} :
    highest cs = some c ↔ IsHighest c cs := by
  constructor
  · intro found
    obtain ⟨d, same, top⟩ := exists_highest cs (by
      rintro rfl
      cases found)
    rw [found, Option.some_inj] at same
    exact same ▸ top
  · intro top
    obtain ⟨d, found, other⟩ := exists_highest cs (List.ne_nil_of_mem top.1)
    rw [found, other.unique top]

private theorem keeps_iff {p : Policy} {f : Finding} :
    p.keeps f = true ↔ f.secret ∉ p.ignoreSecrets ∧ f.reason ∉ p.ignoreReasons := by
  simp [keeps]

private theorem pass_judge_iff (p : Policy) (fs : List Finding) :
    (p.judge fs).pass = true ↔ ∀ f ∈ p.apply fs, f.confidence.rank < p.failOn.rank := by
  simp [judge]

/-- The second policy leaves out all that the first one leaves out, and fails no sooner. -/
structure Loosens (p q : Policy) : Prop where
  failOn : p.failOn.rank ≤ q.failOn.rank
  ignoreSecrets : p.ignoreSecrets ⊆ q.ignoreSecrets
  ignoreReasons : p.ignoreReasons ⊆ q.ignoreReasons

private theorem Loosens.keeps {p q : Policy} (looser : p.Loosens q) {f : Finding}
    (kept : q.keeps f = true) : p.keeps f = true := by
  obtain ⟨secret, reason⟩ := keeps_iff.mp kept
  exact keeps_iff.mpr ⟨fun ignored => secret (looser.ignoreSecrets ignored),
    fun ignored => reason (looser.ignoreReasons ignored)⟩

private theorem Loosens.pass {p q : Policy} (looser : p.Loosens q) {fs : List Finding}
    (passes : (p.judge fs).pass = true) : (q.judge fs).pass = true := by
  rw [pass_judge_iff] at passes ⊢
  intro f hf
  obtain ⟨found, kept⟩ := List.mem_filter.mp hf
  have below := passes f (List.mem_filter.mpr ⟨found, looser.keeps kept⟩)
  exact Nat.lt_of_lt_of_le below looser.failOn

private theorem findings_report (p : Policy) (root : String) (units : List UnitReport)
    (skipped : List SkippedUnit) (cancelled : Nat) :
    (p.report root units skipped cancelled).findings = p.apply (units.flatMap (·.findings)) := by
  simp only [report, ScanReport.findings, apply, List.filter_flatMap, List.flatMap_map]

/-- A unit of a report: of the findings of an analysis, in their order, those that the policy does
not leave out. -/
structure Leaves (p : Policy) (left raw : UnitReport) : Prop where
  order : left.findings.Sublist raw.findings
  exactly : ∀ f, f ∈ left.findings ↔
    f ∈ raw.findings ∧ f.secret ∉ p.ignoreSecrets ∧ f.reason ∉ p.ignoreReasons

/-- The verdict of a report is true of the findings that are left in it, and of those of the
analyses that it comes from. -/
structure Judges (p : Policy) (raw : List UnitReport) (r : ScanReport) : Prop where
  left : List.Forall₂ p.Leaves r.units raw
  total : r.verdict.totalFindings = (raw.flatMap (·.findings)).length
  effective : r.verdict.effectiveFindings = r.findings.length
  none_left : r.verdict.highestConfidence = none ↔ r.findings = []
  highest : ∀ c, r.verdict.highestConfidence = some c ↔
    (∃ f ∈ r.findings, f.confidence = c) ∧ ∀ f ∈ r.findings, f.confidence.rank ≤ c.rank
  threshold : r.verdict.failThreshold = p.failOn
  pass : r.verdict.pass = true ↔
    ∀ u ∈ r.units, ∀ f ∈ u.findings, f.confidence.rank < r.verdict.failThreshold.rank

private theorem Judges.fails_iff {p : Policy} {raw : List UnitReport} {r : ScanReport}
    (judges : p.Judges raw r) : r.verdict.pass = false ↔
      ∃ u ∈ r.units, ∃ f ∈ u.findings, r.verdict.failThreshold.rank ≤ f.confidence.rank := by
  rw [← Bool.not_eq_true, judges.pass]
  simp only [not_forall, Nat.not_lt, exists_prop]

private theorem leaves_report (p : Policy) (root : String) (units : List UnitReport)
    (skipped : List SkippedUnit) (cancelled : Nat) :
    List.Forall₂ p.Leaves (p.report root units skipped cancelled).units units := by
  rw [report, List.forall₂_map_left_iff, List.forall₂_same]
  intro u _
  refine ⟨List.filter_sublist, fun f => ?_⟩
  rw [apply, List.mem_filter, keeps_iff]

private theorem judges_report (p : Policy) (root : String) (units : List UnitReport)
    (skipped : List SkippedUnit) (cancelled : Nat) :
    p.Judges units (p.report root units skipped cancelled) := by
  have left := p.findings_report root units skipped cancelled
  have confidences : (p.report root units skipped cancelled).verdict.highestConfidence =
      Policy.highest ((p.report root units skipped cancelled).findings.map (·.confidence)) := by
    rw [left]
    rfl
  refine ⟨p.leaves_report root units skipped cancelled, rfl, ?_, ?_, ?_, rfl, ?_⟩
  · rw [left]
    exact List.length_map _
  · rw [confidences, highest_eq_none_iff, List.map_eq_nil_iff]
  · intro c
    rw [confidences, highest_eq_some_iff]
    simp [IsHighest]
  · have passes := p.pass_judge_iff (units.flatMap (·.findings))
    rw [← left] at passes
    refine passes.trans ?_
    simp only [ScanReport.findings, List.mem_flatMap]
    exact ⟨fun all u hu f hf => all f ⟨u, hu, hf⟩, fun all f ⟨u, hu, hf⟩ => all u hu f hf⟩

end Policy

/-- A scan reports on what it loads: its policy judges the analyses that were not cancelled. -/
theorem scanUnless_eq_ok_iff {cancelled : Nat → Bool} {files : FileTree} {root : String}
    {options : ScanOptions} {r : ScanReport} :
    scanUnless cancelled files root options = .ok r ↔
      ∃ config batch analysis, configFor files root options.configPath = .ok config ∧
        prepare files root config = .ok (batch, analysis) ∧
        r = (options.policy config).report root
          ((analysis.unitReports cancelled batch.manifests).filterMap id) batch.skipped
          ((analysis.unitReports cancelled batch.manifests).countP (·.isNone)) := by
  unfold scanUnless
  cases configFor files root options.configPath with
  | error e => simp [bind, Except.bind]
  | ok config =>
    cases prepared : prepare files root config with
    | error e => simp [bind, Except.bind, prepared]
    | ok found =>
      simp only [bind, Except.bind, pure, Except.pure, prepared, Except.ok.injEq]
      constructor
      · rintro rfl
        exact ⟨config, found.1, found.2, rfl, prepared, rfl⟩
      · rintro ⟨_, batch, analysis, rfl, same, rfl⟩
        rw [prepared, Except.ok.injEq] at same
        rw [same]

namespace Command

/-- A text can be put out: it is not meant for a file, or the file can be written. -/
def Delivers (files : FileTree) (output : Option String) (text : String) : Prop :=
  ∀ file, output = some file → ∃ after, files.write file (Text.Utf8.encode text) = .ok after

private theorem exit_runScan_eq_one_iff (files : FileTree) (stamp : RunStamp) (path : String)
    (config : Option String) (format : ReportFormat) (failOn : Option Confidence)
    (output : Option String) :
    (Outcome.ofResult (runScan files stamp path config format failOn output)).exit = 1 ↔
      ∃ r, scan files path { configPath := config, failOn := failOn } = .ok r ∧
        Delivers files output (r.text stamp format) ∧ r.verdict.pass = false := by
  unfold runScan
  cases scan files path { configPath := config, failOn := failOn } with
  | error e => simp [bind, Except.bind, Outcome.ofResult, Outcome.ofFailure]
  | ok r =>
    cases output with
    | none =>
      cases r.verdict.pass <;>
        simp [bind, Except.bind, pure, Except.pure, Outcome.ofResult, Delivers]
    | some file =>
      cases written : files.write file (Text.Utf8.encode (r.text stamp format)) <;>
        cases r.verdict.pass <;>
          simp [bind, Except.bind, writeText, written, Outcome.ofResult, Outcome.ofFailure, Delivers]

end Command

/-- The verdict and the reported findings agree. For every policy and all analyses of units, the
verdict of the report is true of the findings that are left in it; a policy that leaves out more or
fails later never turns a pass into a failure. Every scan, wherever it is cancelled, reports in this
way on its analyses, and the command exits with 1 exactly if it puts out a report with a finding
that reaches the threshold. -/
theorem Policy.verdict_agrees (p : Policy) (root : String) (units : List UnitReport)
    (skipped : List SkippedUnit) (cancelled : Nat) :
    p.Judges units (p.report root units skipped cancelled) ∧
    (∀ q, p.Loosens q → (p.report root units skipped cancelled).verdict.pass = true →
      (q.report root units skipped cancelled).verdict.pass = true) ∧
    (∀ stopped files path options r, scanUnless stopped files path options = .ok r →
      ∃ config batch analysis, configFor files path options.configPath = .ok config ∧
        prepare files path config = .ok (batch, analysis) ∧
        (options.policy config).Judges
          ((analysis.unitReports stopped batch.manifests).filterMap id) r) ∧
    (∀ files stamp path config format failOn output,
      ((Command.Job.scan path config format failOn output).run files stamp).exit = 1 ↔
        ∃ r, scan files path
            { configPath := config, failOn := (Command.chooseConfidence failOn).1 } = .ok r ∧
          Command.Delivers files output (r.text stamp (Command.chooseFormat format).1) ∧
          ∃ u ∈ r.units, ∃ f ∈ u.findings, r.verdict.failThreshold.rank ≤ f.confidence.rank) := by
  have judged {stopped files path options r}
      (scanned : scanUnless stopped files path options = .ok r) :
      ∃ config batch analysis, configFor files path options.configPath = .ok config ∧
        prepare files path config = .ok (batch, analysis) ∧
        (options.policy config).Judges
          ((analysis.unitReports stopped batch.manifests).filterMap id) r := by
    obtain ⟨config, batch, analysis, configured, prepared, rfl⟩ := scanUnless_eq_ok_iff.mp scanned
    exact ⟨config, batch, analysis, configured, prepared, judges_report _ _ _ _ _⟩
  refine ⟨p.judges_report root units skipped cancelled, fun q looser => looser.pass,
    fun _ _ _ _ _ => judged, ?_⟩
  intro files stamp path config format failOn output
  refine (Command.exit_runScan_eq_one_iff files stamp path config _ _ output).trans
    (exists_congr fun r => and_congr_right fun scanned => and_congr_right fun _ => ?_)
  obtain ⟨_, _, _, _, _, judges⟩ := judged scanned
  exact judges.fails_iff

end SecretFlow

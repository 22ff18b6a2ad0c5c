import Mathlib.Data.List.Find
import SecretFlow.Proofs.DegradedUnits
import SecretFlow.Proofs.ScanReports
import SecretFlow.Proofs.StrongestFirst
import SecretFlow.Report.Sarif

set_option autoImplicit false
set_option relaxedAutoImplicit false

/-!
Rules and results of a log. The rules are collected from the reasons of the findings, and the level
of a rule is looked up by its reason; the level of a result is that of its finding. Both agree,
since the confidence in a mined finding goes with its reason, and a policy only leaves findings out.
-/

namespace SecretFlow

namespace JsonValue

def get? : JsonValue → String → Option JsonValue
  | object fields, name => (fields.find? (·.1 = name)).map (·.2)
  | _, _ => none

def along (v : JsonValue) : List String → Option JsonValue
  | [] => some v
  | name :: names => (v.get? name).bind (·.along names)

def textAt? (v : JsonValue) (names : List String) : Option String :=
  match v.along names with
  | some (string s) => some s
  | _ => none

private theorem get?_sorted {fields : List (String × JsonValue)}
    (distinct : (fields.map (·.1)).Nodup)
    (name : String) : (sorted fields).get? name = (fields.find? (·.1 = name)).map (·.2) := by
  have perm : (fields.mergeSort fun a b => a.1 ≤ b.1).Perm fields := List.mergeSort_perm _ _
  refine congrArg (Option.map (·.2)) (List.find?_eq_find?_of_perm perm ?_)
  rintro a ⟨ha, hname⟩ b ⟨hb, hname'⟩
  refine List.inj_on_of_nodup_map distinct (perm.mem_iff.mp ha) (perm.mem_iff.mp hb) ?_
  rw [of_decide_eq_true hname, of_decide_eq_true hname']

end JsonValue

namespace Finding

/-- How a finding is graded. It cannot be verified if its path ends at a script that could not be
inspected; then there is no sink, and the confidence is low. Otherwise confidence and reason go by
the number of edges. -/
structure Graded (g : Graph) (f : Finding) : Prop where
  sinkless_iff : f.reason = .unverifiableReference ↔ f.sink = none
  unresolved_iff : f.sink = none ↔
    ∃ n ∈ g.nodes, f.path.getLast? = some n.id ∧ n.kind.isUnresolved = true
  unverifiable : f.reason = .unverifiableReference → f.confidence = .low
  verified : f.reason ≠ .unverifiableReference →
    f.edgeCount ≤ 2 ∧ f.confidence = .high ∧ f.reason = .directExposure ∨
    3 ≤ f.edgeCount ∧ f.edgeCount ≤ 4 ∧ f.confidence = .medium ∧ f.reason = .indirectExposure ∨
    5 ≤ f.edgeCount ∧ f.confidence = .low ∧ f.reason = .distantExposure

private theorem Graded.usualConfidence_eq {g : Graph} {f : Finding} (graded : f.Graded g) :
    Sarif.usualConfidence f.reason = f.confidence := by
  by_cases unverifiable : f.reason = .unverifiableReference
  · rw [graded.unverifiable unverifiable, unverifiable]
    rfl
  · rcases graded.verified unverifiable with ⟨_, confidence, reason⟩ |
      ⟨_, _, confidence, reason⟩ | ⟨_, confidence, reason⟩
    all_goals
      rw [confidence, reason]
      rfl

private theorem Tells.exists_last {g : Graph} {limit : Nat} {f : Finding}
    (tells : f.Tells g limit) : ∃ n ∈ g.nodes, f.path.getLast? = some n.id ∧
      (n.kind.isUnresolved = true ∧ f.sink = none ∨
        n.kind.isUnresolved = false ∧ f.sink.isSome = true) ∧
      f.confidence = scorePath f.edgeCount n.kind ∧ f.reason = .ofPath n.kind f.confidence := by
  obtain ⟨path, first, last, leak, _, ends, rfl⟩ := tells
  refine ⟨last, leak.inGraph last (List.mem_of_getLast? ends), ?_, ?_, rfl, rfl⟩
  · rw [ofPath_path, List.getLast?_map, ends]
    rfl
  · obtain ⟨n, same, terminal⟩ := leak.ends
    rw [ends, Option.some_inj] at same
    subst same
    cases kind : last.kind with
    | unresolved cause => exact .inl ⟨rfl, by simp [ofPath, kind]⟩
    | externalSink sink pattern => exact .inr ⟨rfl, by simp [ofPath, kind]⟩
    | _ =>
      rw [kind] at terminal
      cases terminal

private theorem Tells.graded {g : Graph} (wf : g.WellFormed) {limit : Nat} {f : Finding}
    (tells : f.Tells g limit) : f.Graded g := by
  obtain ⟨last, inGraph, ends, sink, confidence, reason⟩ := tells.exists_last
  -- the last node is told from its id, so it is the one whose kind counts
  have unresolved : f.sink = none ↔ last.kind.isUnresolved = true := by
    rcases sink with ⟨kind, sink⟩ | ⟨kind, sink⟩
    · simp [kind, sink]
    · simp [kind, Option.isSome_iff_ne_none.mp sink]
  have verifiable : f.reason = .unverifiableReference ↔ last.kind.isUnresolved = true := by
    rw [reason]
    exact LeakReason.ofPath_eq_unverifiableReference
  refine ⟨verifiable.trans unresolved.symm, ?_, ?_, ?_⟩
  · rw [unresolved]
    constructor
    · intro kind
      exact ⟨last, inGraph, ends, kind⟩
    · rintro ⟨n, hn, ends', kind⟩
      rw [ends, Option.some_inj] at ends'
      obtain rfl := wf.eq_of_id inGraph hn ends'
      exact kind
  · intro unverifiable
    rw [confidence, scorePath, if_pos (verifiable.mp unverifiable)]
  · intro verified
    have inspected : last.kind.isUnresolved = false := by
      simpa using fun kind => verified (verifiable.mpr kind)
    rw [reason, confidence]
    simp only [scorePath, LeakReason.ofPath, inspected, Bool.false_eq_true, if_false]
    by_cases short : f.edgeCount ≤ 2
    · exact .inl ⟨short, by simp [short]⟩
    · by_cases middle : f.edgeCount ≤ 4
      · exact .inr (.inl ⟨by omega, middle, by simp [short, middle]⟩)
      · exact .inr (.inr ⟨by omega, by simp [short, middle]⟩)

end Finding

/-- The findings of a unit were mined from a graph that was built step by step, and a policy left
some of them out. -/
structure UnitReport.MinedFrom (g : Graph) (u : UnitReport) : Prop where
  built : ∃ unit steps, g = ({ unit := unit } : Graph).run steps
  mined : ∃ limits policy, u.findings = Policy.apply policy (g.mine limits).findings

private theorem UnitReport.MinedFrom.graded {g : Graph} {u : UnitReport} (mined : u.MinedFrom g)
    {f : Finding} (hf : f ∈ u.findings) : f.Graded g := by
  obtain ⟨⟨unit, steps, rfl⟩, limits, policy, eq⟩ := mined
  rw [eq] at hf
  have wf := Graph.wellFormed_run (Graph.wellFormed_empty unit) steps
  exact (Graph.tells_of_mem_mine wf (List.mem_filter.mp hf).1).graded wf

private theorem minedFrom_of_scan {stopped : Nat → Bool} {files : FileTree} {root : String}
    {options : ScanOptions} {r : ScanReport}
    (scanned : scanUnless stopped files root options = .ok r) {u : UnitReport} (hu : u ∈ r.units) :
    ∃ g, u.MinedFrom g := by
  obtain ⟨config, batch, analysis, _, _, rfl⟩ := scanUnless_eq_ok_iff.mp scanned
  obtain ⟨raw, hraw, rfl⟩ := List.mem_map.mp hu
  obtain ⟨found, hfound, same⟩ := List.mem_filterMap.mp hraw
  obtain ⟨i, hi, rfl⟩ := List.mem_mapIdx.mp hfound
  dsimp only [id_eq] at same
  split at same
  · cases same
  · obtain rfl := Option.some.inj same
    exact ⟨analysis.graph (batch.manifests[i]), ⟨_, _, rfl⟩, _, _, rfl⟩

namespace Sarif

structure Lists (log : JsonValue) (rules results : List JsonValue) : Prop where
  run : ∃ run, log.get? "runs" = some (.array [run]) ∧
    run.along ["tool", "driver", "rules"] = some (.array rules) ∧
    run.get? "results" = some (.array results)

/-- Rules and results agree. The rules stand in the order of their ids, no id twice, and are those
that results name; the level of a result is that of its rule. -/
structure Agree (rules results : List JsonValue) : Prop where
  ids : ∃ ids : List String, rules.map (·.textAt? ["id"]) = ids.map some ∧ ids.Pairwise (· < ·) ∧
    ∀ id, id ∈ ids ↔ ∃ result ∈ results, result.textAt? ["ruleId"] = some id
  levels : ∀ result ∈ results, ∃ rule ∈ rules, ∃ id level,
    result.textAt? ["ruleId"] = some id ∧ rule.textAt? ["id"] = some id ∧
    result.textAt? ["level"] = some level ∧
    rule.textAt? ["defaultConfiguration", "level"] = some level

structure Shows (result : JsonValue) (f : Finding) : Prop where
  ruleId : result.textAt? ["ruleId"] = some f.reason.ruleId
  level : result.textAt? ["level"] = some (level f.confidence)
  message : result.textAt? ["message", "text"] = some f.message
  confidence : result.textAt? ["properties", "confidence"] = some f.confidence.word
  secret : result.textAt? ["properties", "secret"] = some f.secret
  exposedAs : result.textAt? ["properties", "exposedAs"] = some f.exposedAs
  unit : result.textAt? ["properties", "unit"] = some f.unit
  path : result.along ["properties", "path"] = some (.ofTexts f.path)

private theorem shows_result (f : Finding) : Shows (result f) f := by
  constructor <;> unfold result message <;> cases f.location <;> cases f.destination <;>
    simp [JsonValue.textAt?, JsonValue.along, JsonValue.get?_sorted]

private theorem rule_texts (reason : LeakReason) :
    (rule reason).textAt? ["id"] = some reason.ruleId ∧
    (rule reason).textAt? ["defaultConfiguration", "level"] =
      some (level (usualConfidence reason)) := by
  simp [rule, message, JsonValue.textAt?, JsonValue.along, JsonValue.get?_sorted]

private theorem lists_toSarif (r : ScanReport) (stamp : RunStamp) :
    Lists (r.toSarif stamp) ((reasons r.findings).map rule) (r.findings.map result) := by
  refine ⟨run r stamp, ?_, ?_, ?_⟩
  · simp [ScanReport.toSarif, JsonValue.get?_sorted]
  · simp [run, tool, JsonValue.along, JsonValue.get?_sorted]
  · simp [run, JsonValue.get?_sorted]

private theorem mem_reasons {fs : List Finding} {reason : LeakReason} :
    reason ∈ reasons fs ↔ ∃ f ∈ fs, f.reason = reason := by
  have listed : reason ∈ LeakReason.all := by cases reason <;> decide
  simp [reasons, listed]

private theorem agree_of_usual {fs : List Finding}
    (usual : ∀ f ∈ fs, usualConfidence f.reason = f.confidence) :
    Agree ((reasons fs).map rule) (fs.map result) := by
  refine ⟨⟨(reasons fs).map (·.ruleId), ?_, ?_, ?_⟩, ?_⟩
  · simp only [List.map_map]
    exact List.map_congr_left fun reason _ => (rule_texts reason).1
  · have ordered : LeakReason.all.Pairwise fun a b => a.ruleId < b.ruleId := by decide
    exact List.pairwise_map.mpr (ordered.filter _)
  · intro id
    simp only [List.mem_map, mem_reasons]
    constructor
    · rintro ⟨_, ⟨f, hf, rfl⟩, rfl⟩
      exact ⟨result f, ⟨f, hf, rfl⟩, (shows_result f).ruleId⟩
    · rintro ⟨_, ⟨f, hf, rfl⟩, named⟩
      rw [(shows_result f).ruleId, Option.some_inj] at named
      exact ⟨f.reason, ⟨f, hf, rfl⟩, named⟩
  · intro _ hresult
    obtain ⟨f, hf, rfl⟩ := List.mem_map.mp hresult
    refine ⟨rule f.reason, List.mem_map_of_mem (mem_reasons.mpr ⟨f, hf, rfl⟩), f.reason.ruleId,
      level f.confidence, (shows_result f).ruleId, (rule_texts f.reason).1, (shows_result f).level, ?_⟩
    rw [(rule_texts f.reason).2, usual f hf]

end Sarif

/-- Rules and results of a log agree. If the findings of each unit of a report were mined, whatever
the graphs, the limits and the policy, then the log of the report has one result for each finding,
in their order; its rules stand in the order of their ids and are those that results name; the level
of each result is that of its rule; and each finding is graded by the path in its graph. Every scan,
wherever it is cancelled, reports such findings. -/
theorem ScanReport.log_agrees (stamp : RunStamp) :
    (∀ r : ScanReport, (∀ u ∈ r.units, ∃ g, u.MinedFrom g) →
      (∃ rules results, Sarif.Lists (r.toSarif stamp) rules results ∧ Sarif.Agree rules results ∧
        List.Forall₂ Sarif.Shows results r.findings) ∧
      ∀ u ∈ r.units, ∀ g, u.MinedFrom g → ∀ f ∈ u.findings, f.Graded g) ∧
    ∀ stopped files root options r, scanUnless stopped files root options = .ok r →
      ∀ u ∈ r.units, ∃ g, u.MinedFrom g := by
  refine ⟨?_, fun _ _ _ _ _ scanned _ hu => minedFrom_of_scan scanned hu⟩
  intro r mined
  refine ⟨⟨_, _, Sarif.lists_toSarif r stamp, Sarif.agree_of_usual ?_, ?_⟩,
    fun u _ g minedFrom f hf => minedFrom.graded hf⟩
  · intro f hf
    obtain ⟨u, hu, hf⟩ := List.mem_flatMap.mp hf
    obtain ⟨g, minedFrom⟩ := mined u hu
    exact (minedFrom.graded hf).usualConfidence_eq
  · rw [List.forall₂_map_left_iff, List.forall₂_same]
    exact fun f _ => Sarif.shows_result f

end SecretFlow

import Mathlib.Data.List.Induction
import SecretFlow.Proofs.Substitutions
import SecretFlow.Sink.Rule

set_option autoImplicit false
set_option relaxedAutoImplicit false

/-!
The choice of a sink. Whatever the rules test, a statement's sink is the earliest pattern of the
strongest kind among those that hit. In an assignment, standard output counts outside substitutions
only, and the same choice is made among the patterns that hit the text around them and then those
that hit a body.
-/

namespace SecretFlow

/-! ### The earliest pattern of the strongest kind -/

/-- Every pattern before this one is weaker, and none after it is stronger. -/
def IsStrongest (p : SinkPattern) (ps : List SinkPattern) : Prop :=
  ∃ before after, ps = before ++ p :: after ∧ (∀ b ∈ before, b.kind.rank < p.kind.rank) ∧
    ∀ a ∈ after, a.kind.rank ≤ p.kind.rank

private theorem IsStrongest.mem {p : SinkPattern} {ps : List SinkPattern}
    (strongest : IsStrongest p ps) : p ∈ ps := by
  obtain ⟨before, after, rfl, -⟩ := strongest
  simp

private theorem IsStrongest.rank_le {p : SinkPattern} {ps : List SinkPattern}
    (strongest : IsStrongest p ps) : ∀ a ∈ ps, a.kind.rank ≤ p.kind.rank := by
  obtain ⟨before, after, rfl, weaker, others⟩ := strongest
  intro a ha
  rcases List.mem_append.mp ha with earlier | later
  · exact Nat.le_of_lt (weaker a earlier)
  · rcases List.mem_cons.mp later with rfl | later
    · exact Nat.le_refl _
    · exact others a later

private theorem strongest_concat (ps : List SinkPattern) (p : SinkPattern) :
    strongest (ps ++ [p]) = stronger (strongest ps) p :=
  List.foldl_append

private theorem exists_isStrongest {ps : List SinkPattern} (some_left : ps ≠ []) :
    ∃ p, strongest ps = some p ∧ IsStrongest p ps := by
  induction ps using List.reverseRecOn with
  | nil => exact absurd rfl some_left
  | append_singleton ps q ih =>
    rw [strongest_concat]
    by_cases first : ps = []
    · subst first
      exact ⟨q, rfl, [], [], rfl, by simp, by simp⟩
    · obtain ⟨p, found, strongest⟩ := ih first
      have top := strongest.rank_le
      obtain ⟨before, after, rfl, weaker, others⟩ := strongest
      rw [found, stronger]
      by_cases rises : p.kind.rank < q.kind.rank
      · refine ⟨q, if_pos rises, _, [], rfl, ?_, by simp⟩
        intro b hb
        have := top b hb
        omega
      · refine ⟨p, if_neg rises, before, after ++ [q], by simp, weaker, ?_⟩
        intro a ha
        rcases List.mem_append.mp ha with old | new
        · exact others a old
        · rw [List.mem_singleton.mp new]
          omega

private theorem IsStrongest.unique {p q : SinkPattern} {ps : List SinkPattern}
    (first : IsStrongest p ps) (second : IsStrongest q ps) : p = q := by
  have bound := first.rank_le q second.mem
  have again := second.rank_le p first.mem
  obtain ⟨before, after, rfl, weaker, -⟩ := first
  obtain ⟨before', after', same, weaker', -⟩ := second
  -- the shorter of the two starts ends at a pattern that the longer one would call weaker
  rcases List.append_eq_append_iff.mp same with ⟨between, rfl, inside⟩ | ⟨between, rfl, inside⟩
  · cases between with
    | nil => exact (List.cons.inj inside).1
    | cons c between =>
      obtain ⟨rfl, -⟩ := List.cons.inj inside
      have := weaker' p (by simp)
      omega
  · cases between with
    | nil => exact (List.cons.inj inside).1.symm
    | cons c between =>
      obtain ⟨rfl, -⟩ := List.cons.inj inside
      have := weaker q (by simp)
      omega

private theorem strongest_eq_none_iff {ps : List SinkPattern} : strongest ps = none ↔ ps = [] := by
  constructor
  · intro none_found
    by_contra some_left
    obtain ⟨p, found, -⟩ := exists_isStrongest some_left
    rw [none_found] at found
    cases found
  · rintro rfl
    rfl

private theorem strongest_eq_some_iff {ps : List SinkPattern} {p : SinkPattern} :
    strongest ps = some p ↔ IsStrongest p ps := by
  have found (some_left : ps ≠ []) := exists_isStrongest some_left
  constructor
  · intro chosen
    obtain ⟨q, same, top⟩ := found (by rintro rfl; cases chosen)
    rw [chosen, Option.some_inj] at same
    exact same ▸ top
  · intro top
    obtain ⟨q, chosen, again⟩ := found (List.ne_nil_of_mem top.mem)
    rw [chosen, top.unique again]

private theorem stronger_some (b p : SinkPattern) :
    stronger (some b) p = some (if b.kind.rank < p.kind.rank then p else b) := by
  rw [stronger]
  split <;> rfl

private theorem stronger_stronger (best : Option SinkPattern) (p q : SinkPattern) :
    stronger (stronger best p) q = stronger best (if p.kind.rank < q.kind.rank then q else p) := by
  cases best with
  | none => exact stronger_some p q
  | some b =>
    rw [stronger_some, stronger_some, stronger_some]
    by_cases rises : b.kind.rank < p.kind.rank
    · by_cases again : p.kind.rank < q.kind.rank
      · have all : b.kind.rank < q.kind.rank := by omega
        simp [rises, again, all]
      · simp [rises, again]
    · by_cases again : p.kind.rank < q.kind.rank
      · simp [rises, again]
      · have none : ¬ b.kind.rank < q.kind.rank := by omega
        simp [rises, again, none]

private theorem foldl_stronger (best : Option SinkPattern) (ps : List SinkPattern) :
    ps.foldl stronger best = (strongest ps).toList.foldl stronger best := by
  induction ps using List.reverseRecOn with
  | nil => rfl
  | append_singleton ps q ih =>
    rw [List.foldl_append, ih, strongest_concat]
    cases strongest ps with
    | none => rfl
    | some p =>
      rw [stronger_some]
      exact stronger_stronger best p q

/-! ### Rules that hit -/

def hitsOn (rules : List SinkRule) (text : String) : List SinkPattern :=
  (rules.filter (·.hits text)).map (·.pattern)

def textAround (statement : String) : String :=
  String.ofList (Shell.splitSubstitutions .bare statement.toList).outer

def bodiesIn (statement : String) : List String :=
  (Shell.splitSubstitutions .bare statement.toList).inner.map String.ofList

def uncaptured (rules : List SinkRule) : List SinkRule :=
  rules.filter (·.pattern.kind ≠ .stdout)

/-- The patterns that count for an assignment: those that hit the text around the substitutions, and
then, body by body, those about anything but standard output. -/
def hitsOnAssignment (rules : List SinkRule) (statement : String) : List SinkPattern :=
  hitsOn rules (textAround statement) ++ (bodiesIn statement).flatMap (hitsOn (uncaptured rules))

/-- The rule counts for an assignment: it hits the text around the substitutions, or it is not about
standard output and hits a body. -/
def SinkRule.CountsIn (r : SinkRule) (statement : String) : Prop :=
  r.hits (textAround statement) = true ∨
    r.pattern.kind ≠ .stdout ∧ ∃ body ∈ bodiesIn statement, r.hits body = true

private theorem mem_hitsOn {rules : List SinkRule} {text : String} {p : SinkPattern} :
    p ∈ hitsOn rules text ↔ ∃ r ∈ rules, r.pattern = p ∧ r.hits text = true := by
  simp only [hitsOn, List.mem_map, List.mem_filter]
  constructor
  · rintro ⟨r, ⟨hr, hits⟩, same⟩
    exact ⟨r, hr, same, hits⟩
  · rintro ⟨r, hr, same, hits⟩
    exact ⟨r, ⟨hr, hits⟩, same⟩

private theorem mem_hitsOnAssignment {rules : List SinkRule} {statement : String}
    {p : SinkPattern} :
    p ∈ hitsOnAssignment rules statement ↔ ∃ r ∈ rules, r.pattern = p ∧ r.CountsIn statement := by
  simp only [hitsOnAssignment, uncaptured, List.mem_append, List.mem_flatMap, mem_hitsOn,
    List.mem_filter, decide_eq_true_eq]
  constructor
  · rintro (⟨r, hr, same, hits⟩ | ⟨body, hbody, r, ⟨hr, kind⟩, same, hits⟩)
    · exact ⟨r, hr, same, .inl hits⟩
    · exact ⟨r, hr, same, .inr ⟨kind, body, hbody, hits⟩⟩
  · rintro ⟨r, hr, same, hits | ⟨kind, body, hbody, hits⟩⟩
    · exact .inl ⟨r, hr, same, hits⟩
    · exact .inr ⟨body, hbody, r, ⟨hr, kind⟩, same, hits⟩

private theorem isStrongest_hitsOn_iff {rules : List SinkRule} {text : String} {p : SinkPattern} :
    IsStrongest p (hitsOn rules text) ↔ ∃ before r after, rules = before ++ r :: after ∧
      r.pattern = p ∧ r.hits text = true ∧
      (∀ b ∈ before, b.hits text = true → b.pattern.kind.rank < p.kind.rank) ∧
      ∀ a ∈ after, a.hits text = true → a.pattern.kind.rank ≤ p.kind.rank := by
  constructor
  · rintro ⟨before, after, parts, weaker, others⟩
    obtain ⟨earlier, later, filtered, rfl, more⟩ := List.map_eq_append_iff.mp parts
    obtain ⟨r, last, rfl, rfl, rfl⟩ := List.map_eq_cons_iff.mp more
    obtain ⟨first, second, rfl, rfl, more⟩ := List.filter_eq_append_iff.mp filtered
    obtain ⟨skipped, rest, rfl, missed, hits, rfl⟩ := List.filter_eq_cons_iff.mp more
    refine ⟨first ++ skipped, r, rest, by simp, rfl, hits, ?_, ?_⟩
    · intro b hb hit
      rcases List.mem_append.mp hb with early | skip
      · exact weaker _ (List.mem_map_of_mem (List.mem_filter.mpr ⟨early, hit⟩))
      · exact absurd hit (missed b skip)
    · intro a ha hit
      exact others _ (List.mem_map_of_mem (List.mem_filter.mpr ⟨ha, hit⟩))
  · rintro ⟨before, r, after, rfl, rfl, hits, weaker, others⟩
    refine ⟨hitsOn before text, hitsOn after text, by simp [hitsOn, hits], ?_, ?_⟩
    · intro b hb
      obtain ⟨rule, hrule, rfl, hit⟩ := mem_hitsOn.mp hb
      exact weaker rule hrule hit
    · intro a ha
      obtain ⟨rule, hrule, rfl, hit⟩ := mem_hitsOn.mp ha
      exact others rule hrule hit

/-- Comparing the other way round makes the same choice, ties included. -/
private theorem retain_eq_stronger : retain = stronger := by
  funext best p
  cases best with
  | none => rfl
  | some b =>
    rw [retain, stronger]
    by_cases rises : b.kind.rank < p.kind.rank
    · rw [if_neg (Nat.not_le.mpr rises), if_pos rises]
    · rw [if_pos (Nat.not_lt.mp rises), if_neg rises]

private theorem findSinkWhere_eq_findSink (keep : SinkKind → Bool) (rules : List SinkRule)
    (statement : String) : findSinkWhere keep rules statement =
      findSink (rules.filter fun r => keep r.pattern.kind) statement := by
  rw [findSinkWhere, retain_eq_stronger, findSink, strongest, List.filter_filter]
  simp only [Bool.and_comm]

private theorem foldl_findCapturedSink (rules : List SinkRule) (best : Option SinkPattern)
    (bodies : List (List Char)) :
    (bodies.filterMap fun b => findCapturedSink rules (String.ofList b)).foldl stronger best =
      ((bodies.map String.ofList).flatMap (hitsOn (uncaptured rules))).foldl stronger best := by
  induction bodies generalizing best with
  | nil => rfl
  | cons body bodies ih =>
    have captured : findCapturedSink rules (String.ofList body) =
        strongest (hitsOn (uncaptured rules) (String.ofList body)) :=
      findSinkWhere_eq_findSink _ rules _
    rw [List.map_cons, List.flatMap_cons, List.foldl_append, foldl_stronger best (hitsOn _ _), ← ih,
      List.filterMap_cons, captured]
    cases strongest (hitsOn (uncaptured rules) (String.ofList body)) with
    | none => rfl
    | some p => rfl

private theorem findAssignmentSink_eq_strongest (rules : List SinkRule) (statement : String) :
    findAssignmentSink rules statement = strongest (hitsOnAssignment rules statement) := by
  rw [hitsOnAssignment, strongest, List.foldl_append]
  exact foldl_findCapturedSink rules _ _

/-- The sink of a statement is the earliest of the strongest patterns that hit it. The sink of an
assignment is the earliest of the strongest patterns that hit the text around its substitutions or,
unless they are about standard output, a body; one about standard output is chosen only if it hits
outside the bodies. Without substitutions both are the same. -/
theorem sink_first_strongest (rules : List SinkRule) (statement : String) :
    [SinkKind.stdout, .file, .log, .network].Pairwise (fun weak strong => weak.rank < strong.rank) ∧
    (findSink rules statement = none ↔ ∀ r ∈ rules, r.hits statement = false) ∧
    (∀ p, findSink rules statement = some p ↔ ∃ before r after, rules = before ++ r :: after ∧
      r.pattern = p ∧ r.hits statement = true ∧
      (∀ b ∈ before, b.hits statement = true → b.pattern.kind.rank < p.kind.rank) ∧
      ∀ a ∈ after, a.hits statement = true → a.pattern.kind.rank ≤ p.kind.rank) ∧
    (findAssignmentSink rules statement = none ↔ ∀ r ∈ rules, ¬ r.CountsIn statement) ∧
    (∀ p, findAssignmentSink rules statement = some p ↔
      IsStrongest p (hitsOnAssignment rules statement)) ∧
    (∀ p, findAssignmentSink rules statement = some p →
      (∃ r ∈ rules, r.pattern = p ∧ r.CountsIn statement) ∧
      (∀ r ∈ rules, r.CountsIn statement → r.pattern.kind.rank ≤ p.kind.rank) ∧
      (p.kind = .stdout → ∃ r ∈ rules, r.pattern = p ∧ r.hits (textAround statement) = true)) ∧
    ((∀ before after, statement.toList = before ++ after → ¬ Shell.SubstitutesAt before after) →
      findAssignmentSink rules statement = findSink rules statement) := by
  have assignment := findAssignmentSink_eq_strongest rules statement
  refine ⟨by decide, ?_, ?_, ?_, ?_, ?_, ?_⟩
  · rw [findSink, ← hitsOn, strongest_eq_none_iff, List.eq_nil_iff_forall_not_mem]
    simp only [mem_hitsOn]
    constructor
    · intro none r hr
      exact Bool.eq_false_iff.mpr fun hits => none r.pattern ⟨r, hr, rfl, hits⟩
    · rintro none p ⟨r, hr, rfl, hits⟩
      rw [none r hr] at hits
      cases hits
  · intro p
    rw [findSink, ← hitsOn, strongest_eq_some_iff, isStrongest_hitsOn_iff]
  · rw [assignment, strongest_eq_none_iff, List.eq_nil_iff_forall_not_mem]
    simp only [mem_hitsOnAssignment]
    constructor
    · intro none r hr counts
      exact none r.pattern ⟨r, hr, rfl, counts⟩
    · rintro none p ⟨r, hr, rfl, counts⟩
      exact none r hr counts
  · intro p
    rw [assignment, strongest_eq_some_iff]
  · intro p chosen
    rw [assignment, strongest_eq_some_iff] at chosen
    obtain ⟨r, hr, same, counts⟩ := mem_hitsOnAssignment.mp chosen.mem
    refine ⟨⟨r, hr, same, counts⟩, ?_, ?_⟩
    · intro s hs hit
      exact chosen.rank_le _ (mem_hitsOnAssignment.mpr ⟨s, hs, rfl, hit⟩)
    · intro stdout
      rcases counts with outside | ⟨other, -⟩
      · exact ⟨r, hr, same, outside⟩
      · exact absurd (same ▸ stdout) other
  · intro plain
    have kept := Shell.splitSubstitutions_eq_self_iff.mpr plain
    rw [findAssignmentSink, kept]
    simp

end SecretFlow

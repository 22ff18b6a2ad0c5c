import SecretFlow.Proofs.HereDocuments
import SecretFlow.Proofs.QuotedPlaces

set_option autoImplicit false
set_option relaxedAutoImplicit false

/-!
The segments of a line and the separators between them are the whole line. Every separator stands
outside quotes and escapes, and no segment has an operator there that could part it.
-/

namespace SecretFlow.Shell

/-! ### Operators -/

/-- An operator that parts statements stands at a place, outside quotes and escapes: a semicolon,
two ampersands, two bars, or one ampersand that is not part of a redirection. -/
def PartsAt (before after : List Char) : Prop :=
  standing before = .plain ∧ ∃ rest, after = ';' :: rest ∨ after = '&' :: '&' :: rest ∨
    after = '|' :: '|' :: rest ∨
    (after = '&' :: rest ∧ before.getLast? ≠ some '>' ∧ before.getLast? ≠ some '<' ∧
      rest.head? ≠ some '>')

/-- The texts of separators. A single bar is none. -/
def separators : List (List Char) :=
  [[';'], [';', ';'], ['&', '&'], ['|', '|'], ['&']]

/-- A separator between two texts, outside quotes and escapes. A sign that is there twice is taken
twice, and a single ampersand is not part of a redirection. -/
structure Separates (before separator after : List Char) : Prop where
  plain : standing before = .plain
  known : separator ∈ separators
  whole : separator = [';'] ∨ separator = ['&'] → after.head? ≠ separator.head?
  apart : separator = ['&'] → before.getLast? ≠ some '>' ∧ before.getLast? ≠ some '<' ∧
    after.head? ≠ some '>'

theorem standing_append (before more : List Char) :
    standing (before ++ more) = more.foldl Standing.next (standing before) := by
  rw [standing, List.foldl_append]
  rfl

private theorem Quoting.eq_bare_of_standing {q : Quoting} (plain : q.standing = .plain) :
    q = .bare := by
  cases q with
  | bare => rfl
  | single => cases plain
  | double => cases plain

private theorem separates_of_separator? {before rest : List Char} {q : Quoting} {c : Char}
    {more : Nat} (stands : standing before = q.standing)
    (found : separator? q before.getLast? c rest = some more) :
    Separates before (c :: rest.take more) (rest.drop more) := by
  obtain ⟨rfl, ⟨rfl, again, sign⟩ | ⟨rfl, alone, sign⟩⟩ := separator?_cases found
  · obtain ⟨beyond, rfl⟩ := List.head?_eq_some_iff.mp again
    have known : [c, c] ∈ separators := by
      rcases sign with rfl | rfl | rfl <;> simp [separators]
    exact ⟨stands, known, by simp, by simp⟩
  · rcases sign with rfl | ⟨rfl, free⟩
    · exact ⟨stands, by simp [separators], fun _ => alone, by simp⟩
    · exact ⟨stands, by simp [separators], fun _ => alone, fun _ => free⟩

private theorem PartsAt.separator? {before rest : List Char} {q : Quoting} {c : Char}
    (parts : PartsAt before (c :: rest)) (stands : standing before = q.standing) :
    (separator? q before.getLast? c rest).isSome = true := by
  obtain ⟨plain, beyond, sign⟩ := parts
  obtain rfl : q = .bare := Quoting.eq_bare_of_standing (stands.symm.trans plain)
  rcases sign with same | same | same | ⟨same, notAbove, notBelow, notAfter⟩
  · obtain ⟨rfl, rfl⟩ := List.cons.inj same
    rfl
  · obtain ⟨rfl, rfl⟩ := List.cons.inj same
    rfl
  · obtain ⟨rfl, rfl⟩ := List.cons.inj same
    rfl
  · obtain ⟨rfl, rfl⟩ := List.cons.inj same
    by_cases again : rest.head? = some '&'
    · simp [Shell.separator?, again]
    · simp [Shell.separator?, again, notAbove, notBelow, notAfter]

/-! ### Parts of a line -/

/-- A text in parts: segments, each with the separator after it, and what comes after the last of
them. -/
structure Parts where
  cuts : List (List Char × List Char)
  last : List Char
  deriving DecidableEq, Repr

namespace Parts

def text (t : Parts) : List Char :=
  (t.cuts.flatMap fun p => p.1 ++ p.2) ++ t.last

/-- The segments; after a separator at the end there is none. -/
def segments (t : Parts) : List (List Char) :=
  t.cuts.map Prod.fst ++ if t.last = [] then [] else [t.last]

def cut (separator : List Char) (t : Parts) : Parts :=
  ⟨([], separator) :: t.cuts, t.last⟩

def after (start : List Char) : Parts → Parts
  | ⟨[], last⟩ => ⟨[], start ++ last⟩
  | ⟨(segment, separator) :: cuts, last⟩ => ⟨(start ++ segment, separator) :: cuts, last⟩

theorem text_cons (segment separator : List Char) (t : Parts) :
    text ⟨(segment, separator) :: t.cuts, t.last⟩ = segment ++ (separator ++ t.text) := by
  simp [text]

private theorem text_after (start : List Char) (t : Parts) :
    (t.after start).text = start ++ t.text := by
  obtain ⟨_ | ⟨⟨segment, separator⟩, cuts⟩, last⟩ := t
  · simp [after, text]
  · simp [after, text]

/-- After a text, parts come one after the other. No operator parts a segment or the text after the
last separator, and each separator separates the text before it from the text after it. -/
inductive Follow : List Char → Parts → Prop
  | last {before last : List Char}
      (silent : ∀ start rest, last = start ++ rest → ¬ PartsAt (before ++ start) rest) :
      Follow before ⟨[], last⟩
  | cut {before segment separator : List Char} {t : Parts}
      (silent : ∀ start rest, segment = start ++ rest → rest ≠ [] →
        ¬ PartsAt (before ++ start) (rest ++ (separator ++ t.text)))
      (separates : Separates (before ++ segment) separator t.text)
      (later : Follow (before ++ (segment ++ separator)) t) :
      Follow before ⟨(segment, separator) :: t.cuts, t.last⟩

private theorem Follow.after {before start : List Char} {t : Parts}
    (parts : Follow (before ++ start) t) (silent : ∀ head rest, start = head ++ rest → rest ≠ [] →
      ¬ PartsAt (before ++ head) (rest ++ t.text)) : Follow before (t.after start) := by
  cases parts with
  | last still =>
    refine .last ?_
    intro head rest whole
    rcases List.append_eq_append_iff.mp whole with ⟨more, rfl, inside⟩ | ⟨more, inside, rfl⟩
    · rw [← List.append_assoc]
      exact still more rest inside
    · by_cases empty : more = []
      · subst empty
        rw [List.append_nil] at inside
        subst inside
        have first := still [] _ rfl
        rwa [List.append_nil] at first
      · have first := silent head more inside empty
        rwa [text] at first
  | cut still separates later =>
    rename_i segment separator t
    refine .cut ?_ (by rwa [← List.append_assoc]) (by rwa [List.append_assoc, ← List.append_assoc])
    intro head rest whole nonempty
    rcases List.append_eq_append_iff.mp whole with ⟨more, rfl, inside⟩ | ⟨more, inside, rfl⟩
    · rw [← List.append_assoc]
      exact still more rest inside nonempty
    · by_cases empty : more = []
      · subst empty
        rw [List.append_nil] at inside
        subst inside
        have first := still [] _ rfl nonempty
        rwa [List.append_nil] at first
      · have first := silent head more inside empty
        rwa [text_cons, ← List.append_assoc] at first

end Parts

def partsOf (before : Option Char) (q : Quoting) : List Char → Parts
  | [] => ⟨[], []⟩
  | c :: rest =>
      if q.escapes c then
        (partsOf (some (rest.headD c)) q (rest.drop 1)).after (c :: rest.take 1)
      else
        match separator? q before c rest with
        | some more => (partsOf (some c) q (rest.drop more)).cut (c :: rest.take more)
        | none => (partsOf (some c) (q.after c) rest).after [c]
termination_by s => s.length
decreasing_by all_goals (simp only [List.length_cons, List.length_drop]; omega)

theorem text_partsOf (before : Option Char) (q : Quoting) (s : List Char) :
    (partsOf before q s).text = s := by
  fun_induction partsOf before q s with
  | case1 => rfl
  | case2 before q c rest escapes ih =>
    rw [Parts.text_after, ih, List.cons_append, List.take_append_drop]
  | case3 before q c rest plain more found ih =>
    rw [Parts.cut, Parts.text_cons, ih, List.nil_append, List.cons_append, List.take_append_drop]
  | case4 before q c rest plain none ih =>
    rw [Parts.text_after, ih, List.singleton_append]

private theorem pieces_cut (before : Option Char) (q : Quoting) (s : List Char) :
    (cut before q s).pieces =
      (partsOf before q s).cuts.map Prod.fst ++ [(partsOf before q s).last] := by
  have after (start : List Char) (t : Parts) (u : Cut)
      (same : u.pieces = t.cuts.map Prod.fst ++ [t.last]) :
      (u.after start).pieces =
        (t.after start).cuts.map Prod.fst ++ [(t.after start).last] := by
    obtain ⟨first, later⟩ := u
    obtain ⟨_ | ⟨⟨segment, separator⟩, cuts⟩, last⟩ := t
    · obtain ⟨rfl, rfl⟩ := List.cons.inj same
      rfl
    · obtain ⟨hfirst, hlater⟩ := List.cons.inj same
      have hfirst : first = segment := hfirst
      have hlater : later = cuts.map Prod.fst ++ [last] := hlater
      rw [hfirst, hlater]
      rfl
  fun_induction partsOf before q s with
  | case1 =>
    rw [cut]
    rfl
  | case2 before q c rest escapes ih =>
    rw [cut, if_pos escapes]
    exact after (c :: rest.take 1) _ _ ih
  | case3 before q c rest plain more found ih =>
    rw [cut, if_neg plain, found]
    exact congrArg (List.cons []) ih
  | case4 before q c rest plain none ih =>
    rw [cut, if_neg plain, none]
    exact after [c] _ _ ih

theorem segments_eq_parts (text : List Char) :
    segments text = (partsOf none .bare text).segments := by
  have pieces := pieces_cut none .bare text
  rw [segments, Cut.segments, ← Cut.pieces, pieces, Parts.segments]
  simp only [List.getLastD_concat, List.dropLast_concat, List.isEmpty_iff]
  split
  · simp
  · rfl

/-! ### Reading a line -/

private theorem not_partsAt_nil (before : List Char) : ¬ PartsAt before [] := by
  rintro ⟨-, rest, sign⟩
  simp at sign

private theorem not_partsAt_escape {q : Quoting} {c : Char} (escapes : q.escapes c = true)
    (before rest : List Char) : ¬ PartsAt before (c :: rest) := by
  simp only [Quoting.escapes, Bool.and_eq_true, decide_eq_true_eq] at escapes
  obtain ⟨rfl, -⟩ := escapes
  rintro ⟨-, rest, sign⟩
  simp at sign

private theorem not_partsAt_within_escape {before : List Char} {q : Quoting} {c d : Char}
    (stands : standing before = q.standing) (escapes : q.escapes c = true) (beyond : List Char) :
    ∀ head rest, [c, d] = head ++ rest → rest ≠ [] → ¬ PartsAt (before ++ head) (rest ++ beyond) := by
  -- no operator is inside an escape: a backslash is none, and the character after it is escaped
  intro head rest whole nonempty
  obtain _ | ⟨x, _ | ⟨y, head⟩⟩ := head
  · rw [List.nil_append] at whole
    rw [← whole]
    exact not_partsAt_escape escapes _ _
  · obtain ⟨rfl, -⟩ := List.cons.inj whole
    rintro ⟨plain, -⟩
    rw [standing_append, stands, List.foldl_cons, Quoting.next_of_escapes escapes] at plain
    cases q <;> cases plain
  · obtain ⟨-, inside⟩ := List.cons.inj whole
    obtain ⟨-, inside⟩ := List.cons.inj inside
    exact absurd (List.append_eq_nil_iff.mp inside.symm).2 nonempty

theorem standing_append_idle {before idle : List Char} {q : Quoting}
    (stands : standing before = q.standing)
    (all : ∀ c ∈ idle, isIdle c = true) : standing (before ++ idle) = q.standing := by
  rw [standing_append, stands]
  clear stands
  induction idle with
  | nil => rfl
  | cons c idle ih =>
    have first := all c List.mem_cons_self
    rw [List.foldl_cons, Quoting.next_of_plain (q.escapes_of_isIdle first), q.after_of_isIdle first]
    exact ih fun d hd => all d (List.mem_cons_of_mem _ hd)

theorem follow_partsOf {before : List Char} {q : Quoting} (stands : standing before = q.standing)
    (s : List Char) : (partsOf before.getLast? q s).Follow before := by
  generalize hb : before.getLast? = b
  fun_induction partsOf b q s generalizing before with
  | case1 b q =>
    refine .last ?_
    intro start rest whole
    obtain ⟨-, rfl⟩ := List.append_eq_nil_iff.mp whole.symm
    exact not_partsAt_nil _
  | case2 b q c rest escapes ih =>
    cases rest with
    | nil =>
      rw [List.drop_nil, partsOf]
      refine .last ?_
      intro start rest whole
      obtain _ | ⟨d, start⟩ := start
      · rw [List.nil_append] at whole
        rw [← whole]
        exact not_partsAt_escape escapes _ _
      · obtain ⟨-, inside⟩ := List.cons.inj whole
        obtain ⟨-, rfl⟩ := List.append_eq_nil_iff.mp inside.symm
        exact not_partsAt_nil _
    | cons d rest =>
      have beyond : standing (before ++ [c, d]) = q.standing := by
        rw [standing_append, stands, List.foldl_cons, Quoting.next_of_escapes escapes]
        exact q.next_escaped d
      exact Parts.Follow.after (ih beyond (by simp)) (not_partsAt_within_escape stands escapes _)
  | case3 b q c rest plain more found ih =>
    subst hb
    obtain ⟨-, -, same⟩ := separator?_eq_some found
    have beyond : standing (before ++ (c :: rest.take more)) = q.standing :=
      standing_append_idle stands (idle_of_separator? found).2
    have last : (before ++ (c :: rest.take more)).getLast? = some c := by
      rw [List.getLast?_append, List.getLast?_eq_some_getLast (List.cons_ne_nil _ _),
        same _ (List.getLast_mem _)]
      rfl
    refine .cut ?_ ?_ ?_
    · intro start tail whole nonempty
      exact absurd (List.append_eq_nil_iff.mp whole.symm).2 nonempty
    · rw [List.append_nil, text_partsOf]
      exact separates_of_separator? stands found
    · exact ih beyond last
  | case4 b q c rest plain none ih =>
    subst hb
    have escapes : q.escapes c = false := by simpa using plain
    have beyond : standing (before ++ [c]) = (q.after c).standing := by
      rw [standing_append, stands]
      exact Quoting.next_of_plain escapes
    refine Parts.Follow.after (ih beyond (by simp)) ?_
    intro head tail whole nonempty parts
    obtain _ | ⟨x, head⟩ := head
    · rw [List.nil_append] at whole
      subst whole
      rw [List.append_nil, text_partsOf, List.singleton_append] at parts
      have found := parts.separator? stands
      rw [none] at found
      cases found
    · obtain ⟨-, inside⟩ := List.cons.inj whole
      exact absurd (List.append_eq_nil_iff.mp inside.symm).2 nonempty

/-! ### Segments by themselves -/

private theorem PartsAt.within {before start rest : List Char} (parts : PartsAt start rest)
    (plain : standing before = .plain)
    (free : before.getLast? ≠ some '>' ∧ before.getLast? ≠ some '<') (beyond : List Char)
    (apart : beyond.head? ≠ some '>') :
    PartsAt (before ++ start) (rest ++ beyond) := by
  obtain ⟨stands, more, sign⟩ := parts
  have keeps {c : Char} (other : start.getLast? ≠ some c) (none : before.getLast? ≠ some c) :
      (before ++ start).getLast? ≠ some c := by
    rw [List.getLast?_append]
    cases last : start.getLast? with
    | none => simpa using none
    | some d => simpa [last] using other
  refine ⟨?_, more ++ beyond, ?_⟩
  · rw [standing_append, plain]
    exact stands
  · rcases sign with rfl | rfl | rfl | ⟨rfl, notAbove, notBelow, notAfter⟩
    · exact .inl rfl
    · exact .inr (.inl rfl)
    · exact .inr (.inr (.inl rfl))
    · refine .inr (.inr (.inr ⟨rfl, keeps notAbove free.1, keeps notBelow free.2, ?_⟩))
      cases more with
      | nil => exact apart
      | cons d more => exact notAfter

private theorem Separates.beyond {before separator after : List Char}
    (separates : Separates before separator after) :
    standing (before ++ separator) = .plain ∧ (before ++ separator).getLast? ≠ some '>' ∧
      (before ++ separator).getLast? ≠ some '<' := by
  have known := separates.known
  simp only [separators, List.mem_cons, List.not_mem_nil, or_false] at known
  rw [standing_append, separates.plain]
  rcases known with rfl | rfl | rfl | rfl | rfl <;> simp <;> rfl

private theorem Separates.head? {before separator after : List Char}
    (separates : Separates before separator after) (rest : List Char) :
    (separator ++ rest).head? ≠ some '>' := by
  have known := separates.known
  simp only [separators, List.mem_cons, List.not_mem_nil, or_false] at known
  rcases known with rfl | rfl | rfl | rfl | rfl <;> simp

theorem Parts.Follow.not_partsAt {before : List Char} {t : Parts} (parts : t.Follow before)
    (plain : standing before = .plain)
    (free : before.getLast? ≠ some '>' ∧ before.getLast? ≠ some '<') :
    ∀ segment ∈ t.segments, ∀ start rest, segment = start ++ rest → ¬ PartsAt start rest := by
  induction parts with
  | last silent =>
    rename_i before last
    intro segment hsegment start rest whole stands
    have same : segment = last := by
      by_cases empty : last = []
      · simp [segments, empty] at hsegment
      · simpa [segments, empty] using hsegment
    have inside := stands.within plain free [] (by simp)
    rw [List.append_nil] at inside
    exact silent start rest (same ▸ whole) inside
  | cut silent separates later ih =>
    rename_i before segment separator t
    intro other hother start rest whole stands
    have among : other = segment ∨ other ∈ t.segments := by
      simpa [segments] using hother
    rcases among with rfl | among
    · have nonempty : rest ≠ [] := by
        rintro rfl
        exact not_partsAt_nil _ stands
      exact silent start rest whole nonempty (stands.within plain free _ (separates.head? _))
    · rw [← List.append_assoc] at ih
      exact ih separates.beyond.1 separates.beyond.2 other among start rest whole stands

end SecretFlow.Shell

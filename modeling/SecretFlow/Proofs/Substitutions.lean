import SecretFlow.Proofs.LineParts
import SecretFlow.Shell.Substitution

set_option autoImplicit false
set_option relaxedAutoImplicit false

/-!
A text and its command substitutions. The text is cut into plain pieces and substitutions; the outer
text has a space for each substitution, and the bodies are the inner texts. A substitution opens
where it is neither escaped nor between single quotes. Its body has its own quoting, so quotes
inside it count for nothing outside.
-/

namespace SecretFlow.Shell

/-! ### Bodies between parentheses -/

/-- Read from the left, at most so many parentheses close that were not opened before. -/
def Closes (depth : Nat) (s : List Char) : Prop :=
  ∀ start, start <+: s → start.count ')' ≤ start.count '(' + depth

private theorem count_opening (s : List Char) : ('(' :: s).count '(' = s.count '(' + 1 ∧
    ('(' :: s).count ')' = s.count ')' :=
  ⟨List.count_cons_self, List.count_cons_of_ne (by decide)⟩

private theorem count_closing (s : List Char) : (')' :: s).count '(' = s.count '(' ∧
    (')' :: s).count ')' = s.count ')' + 1 :=
  ⟨List.count_cons_of_ne (by decide), List.count_cons_self⟩

private theorem closes_nil (depth : Nat) : Closes depth [] := by
  intro start within
  rw [List.prefix_nil.mp within]
  simp

private theorem closes_cons {depth : Nat} {c : Char} {s : List Char} :
    Closes depth (c :: s) ↔
      ∀ start, start <+: s → (c :: start).count ')' ≤ (c :: start).count '(' + depth := by
  constructor
  · intro closes start within
    exact closes (c :: start) (List.cons_prefix_cons.mpr ⟨rfl, within⟩)
  · intro closes start within
    rcases List.prefix_cons_iff.mp within with rfl | ⟨more, rfl, inside⟩
    · simp
    · exact closes more inside

private theorem closes_opening {depth : Nat} {s : List Char} :
    Closes depth ('(' :: s) ↔ Closes (depth + 1) s := by
  rw [closes_cons]
  refine forall_congr' fun start => imp_congr_right fun _ => ?_
  have counts := count_opening start
  omega

private theorem closes_closing {depth : Nat} {s : List Char} :
    Closes (depth + 1) (')' :: s) ↔ Closes depth s := by
  rw [closes_cons]
  refine forall_congr' fun start => imp_congr_right fun _ => ?_
  have counts := count_closing start
  omega

private theorem not_closes_closing (s : List Char) : ¬ Closes 0 (')' :: s) := by
  intro closes
  have first := closes [')'] (List.cons_prefix_cons.mpr ⟨rfl, List.nil_prefix⟩)
  revert first
  decide

private theorem closes_other {depth : Nat} {c : Char} {s : List Char} (notOpening : c ≠ '(')
    (notClosing : c ≠ ')') : Closes depth (c :: s) ↔ Closes depth s := by
  rw [closes_cons]
  refine forall_congr' fun start => imp_congr_right fun _ => ?_
  rw [List.count_cons_of_ne notOpening, List.count_cons_of_ne notClosing]

/-- As many parentheses close as open, and none before the one it closes. -/
structure Balanced (s : List Char) : Prop where
  even : s.count '(' = s.count ')'
  closes : Closes 0 s

private theorem parenBody_other {c : Char} (notOpening : c ≠ '(') (notClosing : c ≠ ')')
    (depth : Nat) (rest : List Char) : parenBody depth (c :: rest) = c :: parenBody depth rest := by
  simp [parenBody, notOpening, notClosing]

private theorem closes_parenBody (depth : Nat) (s : List Char) :
    Closes depth (parenBody depth s) := by
  fun_induction parenBody depth s with
  | case1 depth => exact closes_nil depth
  | case2 depth rest ih => exact closes_opening.mpr ih
  | case3 rest => exact closes_nil 0
  | case4 rest depth _ ih => exact closes_closing.mpr ih
  | case5 depth c rest notOpening notClosing ih => exact (closes_other notOpening notClosing).mpr ih

private theorem parenBody_ends (depth : Nat) (s : List Char) : s = parenBody depth s ∨
    (parenBody depth s).count '(' + depth = (parenBody depth s).count ')' ∧
      ∃ rest, s = parenBody depth s ++ ')' :: rest := by
  fun_induction parenBody depth s with
  | case1 depth => exact .inl rfl
  | case2 depth rest ih =>
    rcases ih with all | ⟨even, beyond, parts⟩
    · exact .inl (congrArg _ all)
    · have counts := count_opening (parenBody (depth + 1) rest)
      exact .inr ⟨by omega, beyond, congrArg _ parts⟩
  | case3 rest => exact .inr ⟨rfl, rest, rfl⟩
  | case4 rest depth _ ih =>
    rcases ih with all | ⟨even, beyond, parts⟩
    · exact .inl (congrArg _ all)
    · have counts := count_closing (parenBody depth rest)
      exact .inr ⟨by omega, beyond, congrArg _ parts⟩
  | case5 depth c rest notOpening notClosing ih =>
    rcases ih with all | ⟨even, beyond, parts⟩
    · exact .inl (congrArg _ all)
    · refine .inr ⟨?_, beyond, congrArg _ parts⟩
      rwa [List.count_cons_of_ne notOpening, List.count_cons_of_ne notClosing]

private theorem parenBody_of_closes {depth : Nat} {s : List Char} (closes : Closes depth s) :
    parenBody depth s = s := by
  fun_induction parenBody depth s with
  | case1 depth => rfl
  | case2 depth rest ih => rw [ih (closes_opening.mp closes)]
  | case3 rest => exact absurd closes (not_closes_closing rest)
  | case4 rest depth _ ih => rw [ih (closes_closing.mp closes)]
  | case5 depth c rest notOpening notClosing ih =>
    rw [ih ((closes_other notOpening notClosing).mp closes)]

private theorem parenBody_append_closing {depth : Nat} {body : List Char}
    (closes : Closes depth body)
    (even : body.count '(' + depth = body.count ')') (rest : List Char) :
    parenBody depth (body ++ ')' :: rest) = body := by
  induction body generalizing depth with
  | nil =>
    obtain rfl : depth = 0 := by simpa using even
    rfl
  | cons c body ih =>
    by_cases opening : c = '('
    · subst opening
      have counts := count_opening body
      exact congrArg _ (ih (closes_opening.mp closes) (by omega))
    by_cases closing : c = ')'
    · subst closing
      have counts := count_closing body
      cases depth with
      | zero => exact absurd closes (not_closes_closing body)
      | succ depth => exact congrArg _ (ih (closes_closing.mp closes) (by omega))
    · rw [List.count_cons_of_ne opening, List.count_cons_of_ne closing] at even
      rw [List.cons_append, parenBody_other opening closing,
        ih ((closes_other opening closing).mp closes) even]

/-! ### Pieces of a text -/

namespace Substitutions

def after (start : List Char) (r : Substitutions) : Substitutions :=
  ⟨start ++ r.outer, r.inner⟩

def cut (body : List Char) (r : Substitutions) : Substitutions :=
  ⟨' ' :: r.outer, body :: r.inner⟩

end Substitutions

/-- The signs around a substitution: a dollar sign with parentheses, or backquotes. -/
inductive Enclosure where
  | parentheses
  | backquotes
  deriving DecidableEq, Repr

namespace Enclosure

def opening : Enclosure → List Char
  | parentheses => ['$', '(']
  | backquotes => ['\x60']

def closing : Enclosure → Char
  | parentheses => ')'
  | backquotes => '\x60'

end Enclosure

structure Substitution where
  signs : Enclosure
  body : List Char
  closed : Bool
  deriving DecidableEq, Repr

namespace Substitution

/-- The text of a substitution; one that is not closed has no sign after its body. -/
def text (t : Substitution) : List Char :=
  t.signs.opening ++ (t.body ++ if t.closed then [t.signs.closing] else [])

/-- The closing sign is the first that can close the substitution; without one, nothing in the body
can. -/
def WellFormed (t : Substitution) : Prop :=
  match t.signs, t.closed with
  | .parentheses, true => Balanced t.body
  | .parentheses, false => Closes 0 t.body
  | .backquotes, _ => '\x60' ∉ t.body

end Substitution

/-- A text in pieces: plain texts, each with the substitution after it, and the plain text at the
end. -/
structure Pieces where
  cuts : List (List Char × Substitution)
  last : List Char
  deriving DecidableEq, Repr

namespace Pieces

def text (t : Pieces) : List Char :=
  (t.cuts.flatMap fun p => p.1 ++ p.2.text) ++ t.last

/-- The plain texts, with a space for each substitution. -/
def outer (t : Pieces) : List Char :=
  (t.cuts.flatMap fun p => p.1 ++ [' ']) ++ t.last

def inner (t : Pieces) : List (List Char) :=
  t.cuts.map fun p => p.2.body

def split (t : Pieces) : Substitutions :=
  ⟨t.outer, t.inner⟩

def cut (first : Substitution) (t : Pieces) : Pieces :=
  ⟨([], first) :: t.cuts, t.last⟩

def after (start : List Char) : Pieces → Pieces
  | ⟨[], last⟩ => ⟨[], start ++ last⟩
  | ⟨(plain, first) :: cuts, last⟩ => ⟨(start ++ plain, first) :: cuts, last⟩

private theorem text_cons (plain : List Char) (first : Substitution) (t : Pieces) :
    text ⟨(plain, first) :: t.cuts, t.last⟩ = plain ++ (first.text ++ t.text) := by
  simp [text]

private theorem outer_cons (plain : List Char) (first : Substitution) (t : Pieces) :
    outer ⟨(plain, first) :: t.cuts, t.last⟩ = plain ++ ' ' :: t.outer := by
  simp [outer]

private theorem text_after (start : List Char) (t : Pieces) :
    (t.after start).text = start ++ t.text := by
  obtain ⟨_ | ⟨⟨plain, first⟩, cuts⟩, last⟩ := t <;> simp [after, text]

private theorem outer_after (start : List Char) (t : Pieces) :
    (t.after start).outer = start ++ t.outer := by
  obtain ⟨_ | ⟨⟨plain, first⟩, cuts⟩, last⟩ := t <;> simp [after, outer]

private theorem split_after (start : List Char) (t : Pieces) :
    (t.after start).split = t.split.after start := by
  have inner : (t.after start).inner = t.inner := by
    obtain ⟨_ | ⟨⟨plain, first⟩, cuts⟩, last⟩ := t <;> rfl
  rw [split, outer_after, inner]
  rfl

private theorem split_cons (plain : List Char) (first : Substitution) (t : Pieces) :
    split ⟨(plain, first) :: t.cuts, t.last⟩ = (t.split.cut first.body).after plain := by
  rw [split, outer_cons]
  rfl

private theorem eq_of_text_eq_nil {t : Pieces} (empty : t.text = []) : t = ⟨[], []⟩ := by
  obtain ⟨_ | ⟨⟨plain, ⟨signs, body, closed⟩⟩, cuts⟩, last⟩ := t
  · have none : last = [] := by simpa [text] using empty
    rw [none]
  · cases signs <;> simp [text, Substitution.text, Enclosure.opening] at empty

private theorem head?_text_of_outer {t : Pieces} {rest : List Char}
    (outer : t.outer = '(' :: rest) : t.text.head? = some '(' := by
  obtain ⟨_ | ⟨⟨_ | ⟨c, plain⟩, first⟩, cuts⟩, last⟩ := t
  · have same : last = '(' :: rest := outer
    simp [text, same]
  · simp [Pieces.outer] at outer
  · have same : c = '(' := by simp_all [Pieces.outer]
    simp [text, same]

end Pieces

/-! ### Places where a substitution opens -/

/-- A substitution opens at a place, where it is neither escaped nor between single quotes. -/
def SubstitutesAt (before after : List Char) : Prop :=
  (standing before).IsLive ∧ ∃ rest, after = '$' :: '(' :: rest ∨ after = '\x60' :: rest

/-- After a text, no substitution opens in a second one. -/
def Silent (before s : List Char) : Prop :=
  ∀ start rest, s = start ++ rest → ¬ SubstitutesAt (before ++ start) rest

private theorem silent_nil (before : List Char) : Silent before [] := by
  rintro start rest parts ⟨-, beyond, signs⟩
  obtain ⟨-, rfl⟩ := List.append_eq_nil_iff.mp parts.symm
  simp at signs

private theorem silent_cons {before s : List Char} {c : Char} : Silent before (c :: s) ↔
    ¬ SubstitutesAt before (c :: s) ∧ Silent (before ++ [c]) s := by
  constructor
  · intro silent
    refine ⟨?_, ?_⟩
    · have first := silent [] (c :: s) rfl
      rwa [List.append_nil] at first
    · intro start rest parts
      have later := silent (c :: start) rest (congrArg _ parts)
      rwa [List.append_assoc]
  · rintro ⟨first, later⟩ start rest parts
    cases start with
    | nil =>
      rw [List.append_nil, ← List.nil_append rest, ← parts]
      exact first
    | cons d start =>
      obtain ⟨rfl, inside⟩ := List.cons.inj parts
      have here := later start rest inside
      rwa [List.append_assoc] at here

private theorem not_substitutesAt_of_not_isLive {before : List Char}
    (dead : ¬ (standing before).IsLive) (after : List Char) : ¬ SubstitutesAt before after :=
  fun here => dead here.1

private theorem not_substitutesAt_other {c : Char} (dollar : c ≠ '$') (quote : c ≠ '\x60')
    (before rest : List Char) : ¬ SubstitutesAt before (c :: rest) := by
  rintro ⟨-, beyond, signs | signs⟩
  · exact dollar (List.cons.inj signs).1
  · exact quote (List.cons.inj signs).1

/-- Pieces as they are read after a text. Every substitution is well-formed and opens where it is
neither escaped nor between single quotes, only the last one may be left open, and then nothing
comes after it. No substitution opens in the plain texts. Quotes count in the outer text only. -/
structure Pieces.Reading (before : List Char) (t : Pieces) : Prop where
  wellFormed : ∀ p ∈ t.cuts, p.2.WellFormed
  live : ∀ earlier p later, t.cuts = earlier ++ p :: later →
    (standing (before ++ outer ⟨earlier, p.1⟩)).IsLive
  closed : ∀ earlier p later, t.cuts = earlier ++ p :: later → p.2.closed = false →
    later = [] ∧ t.last = []
  silent : Silent before t.outer

private theorem Pieces.Reading.last {before last : List Char} (silent : Silent before last) :
    Pieces.Reading before ⟨[], last⟩ where
  wellFormed := by simp
  live := by simp
  closed := by simp
  silent := silent

private theorem Pieces.Reading.after {before start : List Char} {t : Pieces}
    (reading : t.Reading (before ++ start)) (silent : Silent before (start ++ t.outer)) :
    (t.after start).Reading before := by
  obtain ⟨_ | ⟨⟨plain, first⟩, cuts⟩, last⟩ := t
  · exact .last silent
  · refine ⟨?_, ?_, ?_, ?_⟩
    · have all := reading.wellFormed
      simpa [Pieces.after] using all
    · intro earlier p later parts
      cases earlier with
      | nil =>
        obtain ⟨rfl, -⟩ := List.cons.inj parts
        have here := reading.live [] (plain, first) cuts rfl
        simpa [outer] using here
      | cons e earlier =>
        obtain ⟨rfl, inside⟩ := List.cons.inj parts
        have here := reading.live ((plain, first) :: earlier) p later (congrArg _ inside)
        simpa [outer] using here
    · intro earlier p later parts
      cases earlier with
      | nil =>
        obtain ⟨rfl, rfl⟩ := List.cons.inj parts
        exact reading.closed [] (plain, first) cuts rfl
      | cons e earlier =>
        obtain ⟨rfl, inside⟩ := List.cons.inj parts
        exact reading.closed ((plain, first) :: earlier) p later (congrArg _ inside)
    · rw [outer_after]
      exact silent

private theorem Pieces.Reading.cut {before : List Char} {first : Substitution} {t : Pieces}
    (live : (standing before).IsLive) (wellFormed : first.WellFormed)
    (closed : first.closed = false → t = ⟨[], []⟩) (reading : t.Reading (before ++ [' '])) :
    (t.cut first).Reading before where
  wellFormed := List.forall_mem_cons.mpr ⟨wellFormed, reading.wellFormed⟩
  live := by
    intro earlier p later parts
    cases earlier with
    | nil =>
      obtain ⟨rfl, -⟩ := List.cons.inj parts
      simpa [outer] using live
    | cons e earlier =>
      obtain ⟨rfl, inside⟩ := List.cons.inj parts
      simpa [outer] using reading.live earlier p later inside
  closed := by
    intro earlier p later parts left
    cases earlier with
    | nil =>
      obtain ⟨rfl, rfl⟩ := List.cons.inj parts
      rw [Pieces.cut, closed left]
      exact ⟨rfl, rfl⟩
    | cons e earlier =>
      obtain ⟨rfl, inside⟩ := List.cons.inj parts
      exact reading.closed earlier p later inside left
  silent := by
    rw [Pieces.cut, outer_cons, List.nil_append]
    exact silent_cons.mpr ⟨not_substitutesAt_other (by decide) (by decide) _ _, reading.silent⟩

/-! ### Reading from left to right -/

private theorem splitSubstitutions_escape {q : Quoting} {c : Char} (escapes : q.escapes c = true)
    (d : Char) (rest : List Char) :
    splitSubstitutions q (c :: d :: rest) = (splitSubstitutions q rest).after [c, d] := by
  rw [splitSubstitutions, if_pos escapes]
  rfl

private theorem splitSubstitutions_parenthesised {q : Quoting} (live : q.expands = true)
    (rest : List Char) : splitSubstitutions q ('$' :: '(' :: rest) =
      (splitSubstitutions q (rest.drop ((parenBody 0 rest).length + 1))).cut (parenBody 0 rest) := by
  have plain : ¬ q.escapes '$' = true := by simp [Quoting.escapes]
  rw [splitSubstitutions, if_neg plain, if_pos (by simp [live])]
  rfl

private theorem splitSubstitutions_backquoted {q : Quoting} (live : q.expands = true)
    (rest : List Char) : splitSubstitutions q ('\x60' :: rest) =
      (splitSubstitutions q (rest.drop ((rest.takeWhile (· ≠ '\x60')).length + 1))).cut
        (rest.takeWhile (· ≠ '\x60')) := by
  have plain : ¬ q.escapes '\x60' = true := by simp [Quoting.escapes]
  rw [splitSubstitutions, if_neg plain, if_neg (by simp), if_pos (by simp [live])]
  rfl

private theorem exists_substitution {signs : Enclosure} {body s : List Char}
    (ends : s = body ∧ Substitution.WellFormed ⟨signs, body, false⟩ ∨
      (∃ rest, s = body ++ signs.closing :: rest) ∧ Substitution.WellFormed ⟨signs, body, true⟩) :
    ∃ first : Substitution, first.body = body ∧ first.WellFormed ∧
      signs.opening ++ s = first.text ++ s.drop (body.length + 1) ∧
      (first.closed = false → s.drop (body.length + 1) = []) := by
  rcases ends with ⟨rfl, wellFormed⟩ | ⟨⟨rest, rfl⟩, wellFormed⟩
  · have none : s.drop (s.length + 1) = [] := List.drop_eq_nil_of_le (Nat.le_succ _)
    refine ⟨⟨signs, s, false⟩, rfl, wellFormed, ?_, fun _ => none⟩
    simp [none, Substitution.text]
  · refine ⟨⟨signs, body, true⟩, rfl, wellFormed, ?_, fun left => by cases left⟩
    simp [Substitution.text]

private theorem parenthesised_ends (s : List Char) :
    s = parenBody 0 s ∧ Substitution.WellFormed ⟨.parentheses, parenBody 0 s, false⟩ ∨
      (∃ rest, s = parenBody 0 s ++ Enclosure.parentheses.closing :: rest) ∧
        Substitution.WellFormed ⟨.parentheses, parenBody 0 s, true⟩ := by
  have closes := closes_parenBody 0 s
  rcases parenBody_ends 0 s with all | ⟨even, beyond⟩
  · exact .inl ⟨all, closes⟩
  · exact .inr ⟨beyond, even, closes⟩

private theorem backquoted_ends (s : List Char) :
    s = s.takeWhile (· ≠ '\x60') ∧
        Substitution.WellFormed ⟨.backquotes, s.takeWhile (· ≠ '\x60'), false⟩ ∨
      (∃ rest, s = s.takeWhile (· ≠ '\x60') ++ Enclosure.backquotes.closing :: rest) ∧
        Substitution.WellFormed ⟨.backquotes, s.takeWhile (· ≠ '\x60'), true⟩ := by
  have none : '\x60' ∉ s.takeWhile (· ≠ '\x60') := by
    intro quote
    have other := List.mem_takeWhile_imp quote
    simp at other
  have parts := List.takeWhile_append_dropWhile (p := (· ≠ '\x60')) (l := s)
  cases beyond : s.dropWhile (· ≠ '\x60') with
  | nil =>
    rw [beyond, List.append_nil] at parts
    exact .inl ⟨parts.symm, none⟩
  | cons c rest =>
    have quote := List.head?_dropWhile_not (· ≠ '\x60') s
    rw [beyond, List.head?_cons] at quote
    have quote : c = '\x60' := by simpa using quote
    rw [beyond, quote] at parts
    exact .inr ⟨⟨rest, parts.symm⟩, none⟩

private theorem exists_pieces_cut {before beyond : List Char} {q : Quoting} {first : Substitution}
    (stands : standing before = q.standing) (live : q.expands = true) (wellFormed : first.WellFormed)
    (closed : first.closed = false → beyond = [])
    (later : ∀ {before : List Char}, standing before = q.standing →
      ∃ t : Pieces, t.text = beyond ∧ t.Reading before ∧ splitSubstitutions q beyond = t.split) :
    ∃ t : Pieces, t.text = first.text ++ beyond ∧ t.Reading before ∧
      (splitSubstitutions q beyond).cut first.body = t.split := by
  have space : standing (before ++ [' ']) = q.standing :=
    standing_append_idle stands (by simp [isIdle])
  obtain ⟨t, text, reading, result⟩ := later space
  refine ⟨t.cut first, ?_, .cut ?_ wellFormed ?_ reading, ?_⟩
  · rw [Pieces.cut, Pieces.text_cons, text, List.nil_append]
  · rw [stands]
    exact q.isLive_standing.mpr live
  · intro left
    exact Pieces.eq_of_text_eq_nil (text.trans (closed left))
  · rw [result, Pieces.cut, Pieces.split_cons]
    rfl

private theorem exists_pieces {before : List Char} {q : Quoting}
    (stands : standing before = q.standing) (s : List Char) :
    ∃ t : Pieces, t.text = s ∧ t.Reading before ∧ splitSubstitutions q s = t.split := by
  fun_induction splitSubstitutions q s generalizing before with
  | case1 q => exact ⟨⟨[], []⟩, rfl, .last (silent_nil before), rfl⟩
  | case2 q c rest escapes =>
    rename_i ih
    have backslash : c = '\\' := by
      simp only [Quoting.escapes, Bool.and_eq_true, decide_eq_true_eq] at escapes
      exact escapes.1
    subst backslash
    have first (s : List Char) :=
      not_substitutesAt_other (c := '\\') (by decide) (by decide) before s
    cases rest with
    | nil =>
      refine ⟨⟨[], ['\\']⟩, rfl, .last (silent_cons.mpr ⟨first [], silent_nil _⟩), ?_⟩
      show (splitSubstitutions q []).after ['\\'] = _
      rw [splitSubstitutions]
      rfl
    | cons d rest =>
      have dead : ¬ (standing (before ++ ['\\'])).IsLive := by
        rw [standing_append, stands, List.foldl_cons, Quoting.next_of_escapes escapes]
        exact q.not_isLive_escaped
      have beyond : standing (before ++ ['\\', d]) = q.standing := by
        rw [standing_append, stands, List.foldl_cons, Quoting.next_of_escapes escapes]
        exact q.next_escaped d
      obtain ⟨t, text, reading, result⟩ := ih beyond
      refine ⟨t.after ['\\', d], ?_, reading.after ?_, ?_⟩
      · rw [Pieces.text_after, text]
        rfl
      · refine silent_cons.mpr ⟨first _, silent_cons.mpr ⟨?_, ?_⟩⟩
        · exact not_substitutesAt_of_not_isLive dead _
        · rw [List.append_assoc]
          exact reading.silent
      · rw [Pieces.split_after, ← result]
        rfl
  | case3 q c rest _ opens =>
    rename_i ih
    simp only [Bool.and_eq_true, decide_eq_true_eq] at opens
    obtain ⟨⟨rfl, live⟩, paren⟩ := opens
    obtain ⟨inside, rfl⟩ := List.head?_eq_some_iff.mp paren
    obtain ⟨first, body, wellFormed, parts, closed⟩ :=
      exists_substitution (parenthesised_ends inside)
    have cut := exists_pieces_cut stands live wellFormed closed ih
    rw [← parts, body] at cut
    exact cut
  | case4 q c rest _ _ opens =>
    rename_i ih
    simp only [Bool.and_eq_true, decide_eq_true_eq] at opens
    obtain ⟨rfl, live⟩ := opens
    obtain ⟨first, body, wellFormed, parts, closed⟩ := exists_substitution (backquoted_ends rest)
    have cut := exists_pieces_cut stands live wellFormed closed ih
    rw [← parts, body] at cut
    exact cut
  | case5 q c rest plain noParen noQuote =>
    rename_i ih
    have beyond : standing (before ++ [c]) = (q.after c).standing := by
      rw [standing_append, stands]
      exact Quoting.next_of_plain (by simpa using plain)
    obtain ⟨t, text, reading, result⟩ := ih beyond
    -- The outer text starts with a parenthesis only if the text does, so nothing opens anew here.
    have here : ¬ SubstitutesAt before (c :: t.outer) := by
      rintro ⟨live, more, signs⟩
      rw [stands, q.isLive_standing] at live
      rcases signs with signs | signs
      · obtain ⟨rfl, outer⟩ := List.cons.inj signs
        have paren := Pieces.head?_text_of_outer outer
        rw [text] at paren
        exact noParen (by simp [live, paren])
      · obtain ⟨rfl, -⟩ := List.cons.inj signs
        exact noQuote (by simp [live])
    refine ⟨t.after [c], ?_, reading.after (silent_cons.mpr ⟨here, reading.silent⟩), ?_⟩
    · rw [Pieces.text_after, text]
      rfl
    · rw [Pieces.split_after, ← result]
      rfl

/-! ### Pieces determine what is split -/

private theorem Quoting.standing_injective {q next : Quoting} (same : q.standing = next.standing) :
    q = next := by
  cases q <;> cases next <;> first | rfl | cases same

private theorem Quoting.escaped_ne_standing (q next : Quoting) : q.escaped ≠ next.standing := by
  cases q <;> cases next <;> simp [Quoting.escaped, Quoting.standing]

private theorem splitSubstitutions_append_silent {before plain beyond : List Char}
    {q next : Quoting} (stands : standing before = q.standing) (silent : Silent before plain)
    (ends : beyond = [] ∨ standing (before ++ plain) = next.standing)
    (apart : beyond.head? ≠ some '(') :
    splitSubstitutions q (plain ++ beyond) = (splitSubstitutions next beyond).after plain := by
  fun_induction splitSubstitutions q plain generalizing before with
  | case1 q =>
    rcases ends with rfl | same
    · simp [splitSubstitutions, Substitutions.after]
    · rw [List.append_nil, stands] at same
      rw [Quoting.standing_injective same]
      rfl
  | case2 q c rest escapes =>
    rename_i ih
    cases rest with
    | nil =>
      rcases ends with rfl | same
      · simp [splitSubstitutions, Substitutions.after, escapes]
      -- A backslash at the end would escape what comes next, and no quoting starts like that.
      · rw [standing_append, stands, List.foldl_cons, Quoting.next_of_escapes escapes] at same
        exact absurd same (q.escaped_ne_standing next)
    | cons d rest =>
      have here : standing (before ++ [c, d]) = q.standing := by
        rw [standing_append, stands, List.foldl_cons, Quoting.next_of_escapes escapes]
        exact q.next_escaped d
      have later := (silent_cons.mp (silent_cons.mp silent).2).2
      rw [List.append_assoc] at later
      have read := ih here later (by simpa using ends)
      rw [List.cons_append, List.cons_append, splitSubstitutions_escape escapes]
      exact congrArg (Substitutions.after [c, d]) read
  | case3 q c rest _ opens =>
    simp only [Bool.and_eq_true, decide_eq_true_eq] at opens
    obtain ⟨⟨rfl, live⟩, paren⟩ := opens
    obtain ⟨inside, rfl⟩ := List.head?_eq_some_iff.mp paren
    refine absurd ⟨?_, inside, .inl rfl⟩ (silent_cons.mp silent).1
    rw [stands]
    exact q.isLive_standing.mpr live
  | case4 q c rest _ _ opens =>
    simp only [Bool.and_eq_true, decide_eq_true_eq] at opens
    obtain ⟨rfl, live⟩ := opens
    refine absurd ⟨?_, rest, .inr rfl⟩ (silent_cons.mp silent).1
    rw [stands]
    exact q.isLive_standing.mpr live
  | case5 q c rest plain noParen noQuote =>
    rename_i ih
    have here : standing (before ++ [c]) = (q.after c).standing := by
      rw [standing_append, stands]
      exact Quoting.next_of_plain (by simpa using plain)
    have read := ih here (silent_cons.mp silent).2 (by simpa using ends)
    have noParen : ¬ (c = '$' && q.expands && (rest ++ beyond).head? = some '(') = true := by
      cases rest with
      | nil => simp [apart]
      | cons d rest => exact noParen
    rw [List.cons_append, splitSubstitutions, if_neg plain, if_neg noParen, if_neg noQuote]
    exact congrArg (Substitutions.after [c]) read

private theorem drop_body {body beyond : List Char} {closed : Bool} (sign : Char)
    (left : closed = false → beyond = []) :
    (body ++ ((if closed then [sign] else []) ++ beyond)).drop (body.length + 1) = beyond := by
  cases closed with
  | true => simp
  | false =>
    rw [left rfl]
    exact List.drop_eq_nil_of_le (by simp)

private theorem splitSubstitutions_substitution {first : Substitution} {q : Quoting}
    {beyond : List Char} (wellFormed : first.WellFormed) (live : q.expands = true)
    (left : first.closed = false → beyond = []) :
    splitSubstitutions q (first.text ++ beyond) =
      (splitSubstitutions q beyond).cut first.body := by
  obtain ⟨signs, body, closed⟩ := first
  simp only [Substitution.text, List.append_assoc]
  cases signs with
  | parentheses =>
    have read : parenBody 0 (body ++ ((if closed then [')'] else []) ++ beyond)) = body := by
      cases closed with
      | true => exact parenBody_append_closing wellFormed.closes wellFormed.even beyond
      | false =>
        rw [left rfl]
        simpa using parenBody_of_closes wellFormed
    simp only [Enclosure.opening, Enclosure.closing, List.cons_append, List.nil_append]
    rw [splitSubstitutions_parenthesised live, read, drop_body ')' left]
  | backquotes =>
    have read :
        (body ++ ((if closed then ['\x60'] else []) ++ beyond)).takeWhile (· ≠ '\x60') = body := by
      have other : ∀ c ∈ body, (decide (c ≠ '\x60')) = true := by
        intro c inside
        have : c ≠ '\x60' := fun same => wellFormed (same ▸ inside)
        simpa using this
      rw [List.takeWhile_append_of_pos other]
      cases closed with
      | true => simp
      | false => simp [left rfl]
    simp only [Enclosure.opening, Enclosure.closing, List.cons_append, List.nil_append]
    rw [splitSubstitutions_backquoted live, read, drop_body '\x60' left]

private theorem Silent.left {before s more : List Char} (silent : Silent before (s ++ more)) :
    Silent before s := by
  rintro start rest parts ⟨live, beyond, signs⟩
  refine silent start (rest ++ more) (by rw [parts, List.append_assoc]) ⟨live, beyond ++ more, ?_⟩
  rcases signs with rfl | rfl
  · exact .inl rfl
  · exact .inr rfl

private theorem Silent.right {before s more : List Char} (silent : Silent before (s ++ more)) :
    Silent (before ++ s) more := by
  intro start rest parts
  rw [List.append_assoc]
  exact silent (s ++ start) rest (by rw [parts, List.append_assoc])

private theorem Standing.IsLive.exists_quoting {p : Standing} (live : p.IsLive) :
    ∃ q : Quoting, p = q.standing ∧ q.expands = true := by
  obtain ⟨single, double, escaped⟩ := p
  obtain ⟨rfl, rfl⟩ := live
  cases double with
  | true => exact ⟨.double, rfl, rfl⟩
  | false => exact ⟨.bare, rfl, rfl⟩

private theorem Pieces.Reading.rest {before plain : List Char} {first : Substitution} {t : Pieces}
    (reading : Pieces.Reading before ⟨(plain, first) :: t.cuts, t.last⟩) :
    t.Reading (before ++ (plain ++ [' '])) where
  wellFormed := (List.forall_mem_cons.mp reading.wellFormed).2
  live := by
    intro earlier p later parts
    have here := reading.live ((plain, first) :: earlier) p later (congrArg _ parts)
    simpa [outer] using here
  closed := by
    intro earlier p later parts
    exact reading.closed ((plain, first) :: earlier) p later (congrArg _ parts)
  silent := by
    have silent := reading.silent
    rw [outer_cons, ← List.singleton_append, ← List.append_assoc] at silent
    exact silent.right

/-- Pieces that can be read are what is split. -/
private theorem Pieces.Reading.splitSubstitutions_eq {before : List Char} {t : Pieces}
    (reading : t.Reading before) {q : Quoting} (stands : standing before = q.standing) :
    splitSubstitutions q t.text = t.split := by
  obtain ⟨cuts, last⟩ := t
  induction cuts generalizing before q with
  | nil =>
    have kept : splitSubstitutions q (last ++ []) = (splitSubstitutions .bare []).after last :=
      splitSubstitutions_append_silent stands reading.silent (.inl rfl) (by simp)
    rw [List.append_nil, splitSubstitutions, Substitutions.after, List.append_nil] at kept
    exact kept
  | cons p cuts ih =>
    obtain ⟨plain, first⟩ := p
    have silent := reading.silent
    rw [outer_cons plain first ⟨cuts, last⟩] at silent
    have live := reading.live [] (plain, first) cuts rfl
    obtain ⟨next, beyond, expands⟩ := live.exists_quoting
    have beyond : standing (before ++ plain) = next.standing := by simpa [outer] using beyond
    -- The space in the place of a substitution leaves the quoting as it is.
    have space : standing (before ++ (plain ++ [' '])) = next.standing := by
      rw [← List.append_assoc]
      exact standing_append_idle beyond (by simp [isIdle])
    have left : first.closed = false → text ⟨cuts, last⟩ = [] := by
      intro unclosed
      obtain ⟨rfl, rfl⟩ := reading.closed [] (plain, first) cuts rfl unclosed
      rfl
    have apart : (first.text ++ text ⟨cuts, last⟩).head? ≠ some '(' := by
      obtain ⟨signs, body, closed⟩ := first
      cases signs <;> simp [Substitution.text, Enclosure.opening]
    have rest : splitSubstitutions next (text ⟨cuts, last⟩) = split ⟨cuts, last⟩ :=
      ih space (reading.rest (t := ⟨cuts, last⟩))
    have wellFormed := (List.forall_mem_cons.mp reading.wellFormed).1
    rw [text_cons plain first ⟨cuts, last⟩,
      splitSubstitutions_append_silent stands silent.left (.inr beyond) apart,
      splitSubstitutions_substitution wellFormed expands left, rest]
    exact (split_cons plain first ⟨cuts, last⟩).symm

theorem splitSubstitutions_eq_self_iff {text : List Char} :
    splitSubstitutions .bare text = ⟨text, []⟩ ↔ Silent [] text := by
  constructor
  · intro kept
    have bare : standing [] = Quoting.bare.standing := rfl
    obtain ⟨⟨cuts, last⟩, rfl, reading, result⟩ := exists_pieces bare text
    rw [kept] at result
    have outer : Pieces.text ⟨cuts, last⟩ = Pieces.outer ⟨cuts, last⟩ :=
      congrArg Substitutions.outer result
    rw [outer]
    exact reading.silent
  · intro silent
    exact (Pieces.Reading.last silent).splitSubstitutions_eq rfl

/-- A text is cut into plain pieces and substitutions. What is split is the plain pieces, with a
space for each substitution, and the bodies; nothing but the last substitution is left open, and
every sign that could open one in a plain piece is escaped or between single quotes. No other pieces
can be read that give another result, and a text is left as it is exactly if no substitution opens
in it. -/
theorem substitutions_split_out (text : List Char) :
    (∃ t : Pieces, t.text = text ∧ t.Reading [] ∧
      splitSubstitutions .bare text = ⟨t.outer, t.inner⟩) ∧
    (∀ t : Pieces, t.text = text → t.Reading [] →
      splitSubstitutions .bare text = ⟨t.outer, t.inner⟩) ∧
    (splitSubstitutions .bare text = ⟨text, []⟩ ↔
      ∀ before after, text = before ++ after → ¬ SubstitutesAt before after) := by
  refine ⟨exists_pieces rfl text, ?_, splitSubstitutions_eq_self_iff⟩
  rintro t rfl reading
  exact reading.splitSubstitutions_eq rfl

example : splitSubstitutions .bare "A=$(f (x))'$(y)' \x60z".toList =
    ⟨"A= '$(y)'  ".toList, ["f (x)".toList, "z".toList]⟩ := by
  decide +kernel

end SecretFlow.Shell

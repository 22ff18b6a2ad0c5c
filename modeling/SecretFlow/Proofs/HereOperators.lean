import SecretFlow.Proofs.CutLines

set_option autoImplicit false
set_option relaxedAutoImplicit false

/-!
Here-document operators. The search for an operator finds the first one that no further less-than
sign stands before, with the delimiter word that follows it.
-/

namespace SecretFlow.Shell

open Text (isBlank)

/-- A text starts with a here-document operator: two less-than signs, perhaps a dash, blanks, and a
delimiter word with perhaps a quote before it or right after it. -/
def StartsOperator (o : HereDocOpener) (s : List Char) : Prop :=
  ∃ dash blanks quote rest,
    s = '<' :: '<' :: (dash ++ (blanks ++ (quote ++ (o.delimiter ++ rest)))) ∧
    dash ∈ [[], ['-']] ∧ (∀ c ∈ blanks, isBlank c = true) ∧ quote ∈ [[], ['\x22'], ['\'']] ∧
    isName o.delimiter = true ∧ (∀ c, rest.head? = some c → isNameChar c = false) ∧
    (o.quoted = true ↔ quote ≠ [] ∨ rest.head? = some '\x22' ∨ rest.head? = some '\'')

theorem exists_of_isName {name : List Char} (named : isName name = true) :
    ∃ c more, name = c :: more ∧ isNameStart c = true ∧ ∀ d ∈ more, isNameChar d = true := by
  simp only [isName, Bool.and_eq_true, Bool.not_eq_true', List.isEmpty_eq_false_iff, beq_iff_eq] at named
  obtain ⟨some, whole⟩ := named
  obtain ⟨c, more, rfl⟩ := List.exists_cons_of_ne_nil some
  simp only [leadingName] at whole
  split at whole
  · rename_i start
    refine ⟨c, more, rfl, start, ?_⟩
    intro d hd
    rw [← (List.cons.inj whole).2] at hd
    exact List.mem_takeWhile_imp hd
  · cases whole

theorem isName_leadingName {s : List Char} (some : leadingName s ≠ []) :
    isName (leadingName s) = true := by
  have whole : leadingName (leadingName s) = leadingName s := by
    cases s with
    | nil => rfl
    | cons c rest =>
      by_cases start : isNameStart c = true
      · simp [leadingName, start, List.takeWhile_idem]
      · simp [leadingName, start]
  simp [isName, whole, some]

theorem leadingName_append_iff {name : List Char} (named : isName name = true) (rest : List Char) :
    leadingName (name ++ rest) = name ↔ ∀ c, rest.head? = some c → isNameChar c = false := by
  obtain ⟨c, more, rfl, start, letters⟩ := exists_of_isName named
  have read : leadingName (c :: more ++ rest) = c :: more ++ rest.takeWhile isNameChar := by
    rw [List.cons_append, leadingName, if_pos start, List.takeWhile_append_of_pos letters,
      List.cons_append]
  rw [read, List.append_right_eq_self]
  cases rest with
  | nil => simp
  | cons d rest =>
    rw [List.takeWhile_cons]
    by_cases letter : isNameChar d = true
    · simp [letter]
    · simp [letter]

private theorem quote_iff (quote rest : List Char) : quote.length + quoteWidth rest ≠ 0 ↔
    quote ≠ [] ∨ rest.head? = some '\x22' ∨ rest.head? = some '\'' := by
  have closing : quoteWidth rest ≠ 0 ↔ rest.head? = some '\x22' ∨ rest.head? = some '\'' := by
    unfold quoteWidth
    cases rest with
    | nil => simp
    | cons c rest => simp [or_iff_not_imp_left]
  rw [← closing, ne_eq, Nat.add_eq_zero_iff, not_and_or, List.length_eq_zero_iff]

private theorem take_quoteWidth (s : List Char) :
    s.take (quoteWidth s) ∈ [[], ['\x22'], ['\'']] ∧ quoteWidth s ≤ s.length := by
  unfold quoteWidth
  cases s with
  | nil => simp
  | cons c rest =>
    simp only [List.head?_cons, Bool.or_eq_true, decide_eq_true_eq]
    split
    · rename_i quote
      rcases quote with rfl | rfl <;> simp
    · simp

private theorem openerAt?_pieces (s : List Char) : ∃ dash blanks quote name rest,
    s = dash ++ (blanks ++ (quote ++ (name ++ rest))) ∧
    dash ∈ [[], ['-']] ∧ (∀ c ∈ blanks, isBlank c = true) ∧ quote ∈ [[], ['\x22'], ['\'']] ∧
    name = leadingName (name ++ rest) ∧
    openerAt? ('<' :: '<' :: s) = if name = [] then none
      else some (⟨name, quote.length + quoteWidth rest ≠ 0⟩,
        (dash ++ (blanks ++ (quote ++ name))).length + quoteWidth rest + 2) := by
  let d := if s.head? = some '-' then 1 else 0
  have dash : s.take d ∈ [[], ['-']] ∧ d ≤ s.length := by
    cases s with
    | nil => simp [d]
    | cons c rest =>
      by_cases dash : c = '-'
      · simp [d, dash]
      · simp [d, dash]
  let s₁ := s.drop d
  let blanks := s₁.takeWhile isBlank
  let s₂ := s₁.drop blanks.length
  let s₃ := s₂.drop (quoteWidth s₂)
  let s₄ := s₃.drop (leadingName s₃).length
  have h₁ : s.take d ++ s₁ = s := List.take_append_drop d s
  have h₂ : blanks ++ s₂ = s₁ := List.prefix_iff_eq_append.mp (List.takeWhile_prefix _)
  have h₃ : s₂.take (quoteWidth s₂) ++ s₃ = s₂ := List.take_append_drop _ _
  have h₄ : leadingName s₃ ++ s₄ = s₃ := List.prefix_iff_eq_append.mp (isPrefix_leadingName _)
  refine ⟨s.take d, blanks, s₂.take (quoteWidth s₂), leadingName s₃, s₄, ?_, dash.1,
    fun c hc => List.mem_takeWhile_imp hc, (take_quoteWidth s₂).1, ?_, ?_⟩
  · rw [h₄, h₃, h₂, h₁]
  · rw [h₄]
  · have read : openerAt? ('<' :: '<' :: s) = if (leadingName s₃).isEmpty then none
        else some (⟨leadingName s₃, quoteWidth s₂ + quoteWidth s₄ ≠ 0⟩,
          2 + d + blanks.length + quoteWidth s₂ + (leadingName s₃).length + quoteWidth s₄) := by
      simp only [openerAt?, ← List.drop_drop]
      rfl
    have l₁ : (s.take d).length = d := List.length_take_of_le dash.2
    have l₂ : (s₂.take (quoteWidth s₂)).length = quoteWidth s₂ :=
      List.length_take_of_le (take_quoteWidth s₂).2
    rw [read]
    simp only [List.isEmpty_iff, List.length_append, l₁, l₂]
    congr 3
    omega

private theorem not_mem_of_dash {dash : List Char} (hdash : dash ∈ [[], ['-']]) : '<' ∉ dash := by
  revert hdash
  simp only [List.mem_cons, List.not_mem_nil, or_false]
  rintro (rfl | rfl) <;> decide

private theorem not_mem_of_quote {quote : List Char} (hquote : quote ∈ [[], ['\x22'], ['\'']]) :
    '<' ∉ quote := by
  revert hquote
  simp only [List.mem_cons, List.not_mem_nil, or_false]
  rintro (rfl | rfl | rfl) <;> decide

private theorem openerAt?_eq_some {s : List Char} {o : HereDocOpener} {width : Nat}
    (found : openerAt? s = some (o, width)) : StartsOperator o s ∧
      ∃ more rest, s = '<' :: '<' :: (more ++ rest) ∧ width = more.length + 2 ∧ more ≠ [] ∧
        '<' ∉ more := by
  obtain ⟨r, rfl⟩ : ∃ r, s = '<' :: '<' :: r := by
    unfold openerAt? at found
    split at found
    · exact ⟨_, rfl⟩
    · cases found
  obtain ⟨dash, blanks, quote, name, rest, rfl, hdash, hblanks, hquote, hname, read⟩ :=
    openerAt?_pieces r
  rw [read] at found
  split at found
  · cases found
  · rename_i nonempty
    obtain ⟨rfl, hwidth⟩ := Prod.mk.inj (Option.some.inj found)
    have named : isName name = true := by
      rw [hname]
      refine isName_leadingName ?_
      rwa [← hname]
    have ends := (leadingName_append_iff named rest).mp hname.symm
    refine ⟨⟨dash, blanks, quote, rest, rfl, hdash, hblanks, hquote, named, ends, ?_⟩,
      dash ++ (blanks ++ (quote ++ (name ++ rest.take (quoteWidth rest)))),
      rest.drop (quoteWidth rest), ?_, ?_, ?_, ?_⟩
    · rw [decide_eq_true_eq, quote_iff]
    · simp
    · rw [← hwidth]
      simp only [List.length_append, List.length_take_of_le (take_quoteWidth rest).2]
      omega
    · simp [nonempty]
    · simp only [List.mem_append, not_or]
      refine ⟨not_mem_of_dash hdash, ?_, not_mem_of_quote hquote, ?_,
        not_mem_of_quote (take_quoteWidth rest).1⟩
      · intro sign
        have blank := hblanks _ sign
        revert blank
        decide
      · intro sign
        rw [hname] at sign
        have letter := isNameChar_of_mem_leadingName sign
        revert letter
        decide

private theorem quoted_name_starts {quote name : List Char}
    (hquote : quote ∈ [[], ['\x22'], ['\'']]) (hname : isName name = true) (rest : List Char) :
    (quote ++ (name ++ rest)).takeWhile isBlank = [] ∧ (quote ++ (name ++ rest)).head? ≠ some '-' ∧
      quoteWidth (quote ++ (name ++ rest)) = quote.length := by
  simp only [List.mem_cons, List.not_mem_nil, or_false] at hquote
  rcases hquote with rfl | rfl | rfl
  · obtain ⟨c, more, rfl, start, -⟩ := exists_of_isName hname
    have letter : isNameChar c = true :=
      isNameChar_of_mem_leadingName (s := [c]) (by simp [leadingName, start])
    have blank : ¬ isBlank c = true := by
      intro blank
      have other := spellsReference_of_isBlank blank
      rw [spellsReference_of_isNameChar letter] at other
      cases other
    have other {d : Char} (silent : isNameChar d = false) : c ≠ d := by
      rintro rfl
      rw [letter] at silent
      cases silent
    have dash : c ≠ '-' := other (by decide)
    have double : c ≠ '\x22' := other (by decide)
    have single : c ≠ '\'' := other (by decide)
    simp [blank, dash, quoteWidth, double, single]
  · simp [quoteWidth]
    decide
  · simp [quoteWidth]
    decide

private theorem openerAt?_of_startsOperator {o : HereDocOpener} {s : List Char}
    (starts : StartsOperator o s) : ∃ width, openerAt? s = some (o, width) := by
  obtain ⟨dash, blanks, quote, rest, rfl, hdash, hblanks, hquote, hname, ends, quotes⟩ := starts
  have read := (leadingName_append_iff hname rest).mpr ends
  have quoted := quoted_name_starts hquote hname rest
  simp only [List.mem_cons, List.not_mem_nil, or_false] at hdash
  have dashed : (blanks ++ (quote ++ (o.delimiter ++ rest))).head? ≠ some '-' := by
    cases blanks with
    | nil => exact quoted.2.1
    | cons b blanks =>
      rintro same
      obtain rfl := Option.some.inj same
      have blank := hblanks '-' List.mem_cons_self
      revert blank
      decide
  have blanks_read : (blanks ++ (quote ++ (o.delimiter ++ rest))).takeWhile isBlank = blanks := by
    rw [List.takeWhile_append_of_pos hblanks, quoted.1, List.append_nil]
  have dropped : (dash ++ (blanks ++ (quote ++ (o.delimiter ++ rest)))).drop
      (if (dash ++ (blanks ++ (quote ++ (o.delimiter ++ rest)))).head? = some '-' then 1 else 0) =
        blanks ++ (quote ++ (o.delimiter ++ rest)) := by
    rcases hdash with rfl | rfl
    · rw [List.nil_append, if_neg dashed, List.drop_zero]
    · rfl
  have mark : decide (quote.length + quoteWidth rest ≠ 0) = o.quoted := by
    rw [Bool.eq_iff_iff, quotes, decide_eq_true_eq, quote_iff]
  have nonempty : ¬ o.delimiter.isEmpty = true := by
    obtain ⟨c, more, hdelimiter, -⟩ := exists_of_isName hname
    simp [hdelimiter]
  simp only [openerAt?, ← List.drop_drop, dropped, blanks_read, List.drop_left, quoted.2.2, read]
  rw [if_neg nonempty, mark]
  exact ⟨_, rfl⟩

/-! ### The first operator of a text -/

/-- A here-document operator stands in a text, which comes after a character or none, where no
further less-than sign is right before it. -/
structure OperatorAt (earlier : Option Char) (text before after : List Char) : Prop where
  parts : text = before ++ after
  starts : ∃ o, StartsOperator o after
  alone : before.getLast?.or earlier ≠ some '<'

theorem OperatorAt.signs {earlier : Option Char} {text before after : List Char}
    (stands : OperatorAt earlier text before after) : ∃ rest, after = '<' :: '<' :: rest := by
  obtain ⟨o, dash, blanks, quote, rest, rfl, -⟩ := stands.starts
  exact ⟨_, rfl⟩

private theorem OperatorAt.cons {earlier : Option Char} {c : Char} {rest before after : List Char}
    (stands : OperatorAt (some c) rest before after) :
    OperatorAt earlier (c :: rest) (c :: before) after where
  parts := by rw [stands.parts, List.cons_append]
  starts := stands.starts
  alone := by
    have last := stands.alone
    rw [List.getLast?_cons]
    cases h : before.getLast? <;> simp_all

private theorem OperatorAt.of_cons {earlier : Option Char} {c : Char}
    {rest before after : List Char}
    (stands : OperatorAt earlier (c :: rest) before after) (none : openerAt? (c :: rest) = none) :
    ∃ b, before = c :: b ∧ OperatorAt (some c) rest b after := by
  cases before with
  | nil =>
    obtain ⟨o, starts⟩ := stands.starts
    obtain ⟨width, found⟩ := openerAt?_of_startsOperator starts
    have same : c :: rest = after := stands.parts
    rw [← same, none] at found
    cases found
  | cons d b =>
    obtain ⟨rfl, parts⟩ := List.cons.inj stands.parts
    refine ⟨b, rfl, parts, stands.starts, ?_⟩
    have last := stands.alone
    rw [List.getLast?_cons] at last
    cases h : b.getLast? <;> simp_all

private theorem OperatorAt.of_append {more rest before after : List Char} (nonempty : more ≠ [])
    (signs : '<' ∉ more)
    (stands : OperatorAt (some '<') ('<' :: '<' :: (more ++ rest)) before after) :
    ∃ b, before = '<' :: '<' :: (more ++ b) ∧ OperatorAt none rest b after := by
  obtain ⟨tail, htail⟩ := stands.signs
  obtain _ | ⟨x, _ | ⟨y, b⟩⟩ := before
  · exact absurd rfl stands.alone
  · have parts := (List.cons.inj stands.parts).2
    obtain ⟨m, ms, rfl⟩ := List.exists_cons_of_ne_nil nonempty
    rw [htail] at parts
    have sign : m = '<' := (List.cons.inj (List.cons.inj parts).2).1
    exact absurd (sign ▸ List.mem_cons_self) signs
  · obtain ⟨hx, parts⟩ := List.cons.inj stands.parts
    obtain ⟨hy, later⟩ := List.cons.inj parts
    subst hx hy
    rcases List.append_eq_append_iff.mp later with ⟨b', rfl, hrest⟩ | ⟨inside, hmore, hafter⟩
    · refine ⟨b', rfl, hrest, stands.starts, ?_⟩
      intro last
      have whole : b'.getLast? = some '<' := by simpa using last
      refine stands.alone ?_
      rw [List.getLast?_cons, List.getLast?_cons, List.getLast?_append, whole]
      rfl
    · cases inside with
      | nil =>
        rw [List.append_nil] at hmore
        rw [List.nil_append] at hafter
        exact ⟨[], by rw [hmore, List.append_nil], by rw [hafter, List.nil_append], stands.starts,
          by simp⟩
      | cons d inside =>
        have sign : d = '<' := by
          rw [htail] at hafter
          exact (List.cons.inj hafter).1.symm
        refine absurd ?_ signs
        rw [hmore, sign]
        exact List.mem_append_right _ List.mem_cons_self

private theorem OperatorAt.append {earlier : Option Char} {more rest before after : List Char}
    (nonempty : more ≠ []) (signs : '<' ∉ more) (stands : OperatorAt none rest before after) :
    OperatorAt earlier ('<' :: '<' :: (more ++ rest)) ('<' :: '<' :: (more ++ before)) after where
  parts := by rw [stands.parts]; simp
  starts := stands.starts
  alone := by
    have last := stands.alone
    rw [List.getLast?_cons, List.getLast?_cons, List.getLast?_append]
    obtain ⟨m, hm⟩ := Option.ne_none_iff_exists'.mp (mt List.getLast?_eq_none_iff.mp nonempty)
    have other : m ≠ '<' := by
      rintro rfl
      exact signs (List.mem_of_getLast? hm)
    cases h : before.getLast? with
    | none => simpa [hm] using other
    | some d => simpa [h] using last

private theorem operatorAt_skip_iff {c : Char} {rest before after : List Char} {o : HereDocOpener}
    {width : Nat} (starts : openerAt? (c :: rest) = some (o, width)) :
    OperatorAt (some '<') (c :: rest) before after ↔
      ∃ b, before = (c :: rest).take width ++ b ∧ OperatorAt none (rest.drop (width - 1)) b after := by
  obtain ⟨-, more, beyond, parts, rfl, nonempty, signs⟩ := openerAt?_eq_some starts
  obtain ⟨rfl, rfl⟩ := List.cons.inj parts
  have taken : ('<' :: '<' :: (more ++ beyond)).take (more.length + 2) = '<' :: '<' :: more := by
    simp
  have dropped : ('<' :: (more ++ beyond)).drop (more.length + 2 - 1) = beyond := by
    simp
  rw [taken, dropped]
  constructor
  · intro stands
    exact stands.of_append nonempty signs
  · rintro ⟨b, rfl, stands⟩
    exact stands.append nonempty signs

private theorem opener?_eq_some {earlier : Option Char} {s : List Char} {o : HereDocOpener}
    (found : opener? earlier s = some o) : ∃ before after,
      OperatorAt earlier s before after ∧ StartsOperator o after ∧
      ∀ b a, OperatorAt earlier s b a → before.length ≤ b.length := by
  fun_induction opener? earlier s with
  | case1 => cases found
  | case2 c rest opener width starts ih =>
    obtain ⟨before, after, stands, opens, first⟩ := ih found
    refine ⟨_, after, (operatorAt_skip_iff starts).mpr ⟨before, rfl, stands⟩, opens, ?_⟩
    intro b a other
    obtain ⟨b', rfl, beyond⟩ := (operatorAt_skip_iff starts).mp other
    have shorter := first b' a beyond
    simpa using shorter
  | case3 earlier c rest opener width starts alone =>
    obtain rfl := Option.some.inj found
    have opens := (openerAt?_eq_some starts).1
    refine ⟨[], c :: rest, ⟨rfl, ⟨opener, opens⟩, alone⟩, opens, ?_⟩
    intro b a _
    exact Nat.zero_le _
  | case4 earlier c rest starts ih =>
    obtain ⟨before, after, stands, opens, first⟩ := ih found
    refine ⟨c :: before, after, stands.cons, opens, ?_⟩
    intro b a other
    obtain ⟨b', rfl, beyond⟩ := other.of_cons starts
    exact Nat.succ_le_succ (first b' a beyond)

theorem opener?_eq_none_iff {earlier : Option Char} {s : List Char} :
    opener? earlier s = none ↔ ∀ before after, ¬ OperatorAt earlier s before after := by
  constructor
  · intro none
    fun_induction opener? earlier s with
    | case1 =>
      intro before after stands
      obtain ⟨rest, rfl⟩ := stands.signs
      have parts := stands.parts
      simp at parts
    | case2 c rest opener width starts ih =>
      intro before after stands
      obtain ⟨b, -, beyond⟩ := (operatorAt_skip_iff starts).mp stands
      exact ih none b after beyond
    | case3 => cases none
    | case4 earlier c rest starts ih =>
      intro before after stands
      obtain ⟨b, -, beyond⟩ := stands.of_cons starts
      exact ih none b after beyond
  · intro absent
    cases found : opener? earlier s with
    | none => rfl
    | some o =>
      obtain ⟨before, after, stands, -⟩ := opener?_eq_some found
      exact absurd stands (absent before after)

structure FirstOperator (o : HereDocOpener) (text before after : List Char) : Prop where
  stands : OperatorAt none text before after
  starts : StartsOperator o after
  first : ∀ b a, OperatorAt none text b a → before.length ≤ b.length

private theorem StartsOperator.unique {o p : HereDocOpener} {s : List Char}
    (ho : StartsOperator o s) (hp : StartsOperator p s) : o = p := by
  obtain ⟨width, found⟩ := openerAt?_of_startsOperator ho
  obtain ⟨other, again⟩ := openerAt?_of_startsOperator hp
  rw [found] at again
  exact (Prod.mk.inj (Option.some.inj again)).1

private theorem FirstOperator.unique {o p : HereDocOpener} {text before after b a : List Char}
    (ho : FirstOperator o text before after) (hp : FirstOperator p text b a) :
    before = b ∧ after = a ∧ o = p := by
  have places : before.length = b.length :=
    Nat.le_antisymm (ho.first _ _ hp.stands) (hp.first _ _ ho.stands)
  obtain ⟨rfl, rfl⟩ := List.append_inj (ho.stands.parts.symm.trans hp.stands.parts) places
  exact ⟨rfl, rfl, ho.starts.unique hp.starts⟩

theorem opener?_eq_some_iff {s : List Char} {o : HereDocOpener} :
    opener? none s = some o ↔ ∃ before after, FirstOperator o s before after := by
  constructor
  · intro found
    obtain ⟨before, after, stands, starts, first⟩ := opener?_eq_some found
    exact ⟨before, after, stands, starts, first⟩
  · rintro ⟨before, after, operator⟩
    cases found : opener? none s with
    | none => exact absurd operator.stands (opener?_eq_none_iff.mp found before after)
    | some p =>
      obtain ⟨b, a, stands, starts, first⟩ := opener?_eq_some found
      obtain ⟨-, -, same⟩ := operator.unique ⟨stands, starts, first⟩
      rw [same]

end SecretFlow.Shell

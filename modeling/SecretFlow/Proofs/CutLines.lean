import Mathlib.Data.List.Basic
import Mathlib.Data.List.TakeWhile
import SecretFlow.Shell.Statement

set_option autoImplicit false
set_option relaxedAutoImplicit false

/-!
Cutting a line keeps its variables. Cutting a line into segments and looking for references read the
text in the same quoting at every character, so no reference is cut in two and none is made up.
Blanks around a segment and keywords before it spell no reference either. The variables of a line
are therefore those of its statements, in order.
-/

namespace SecretFlow.Shell

@[elab_as_elim]
theorem Quoting.reading {motive : Quoting → List Char → Prop} (nil : ∀ q, motive q [])
    (escaped : ∀ (q : Quoting) (c : Char) (rest : List Char), q.escapes c = true →
      motive q (rest.drop 1) → motive q (c :: rest))
    (plain : ∀ (q : Quoting) (c : Char) (rest : List Char), q.escapes c = false →
      motive (q.after c) rest → motive q (c :: rest)) (q : Quoting) (s : List Char) : motive q s := by
  induction hn : s.length using Nat.strong_induction_on generalizing q s with
  | _ n ih =>
    subst hn
    cases s with
    | nil => exact nil q
    | cons c rest =>
      cases h : q.escapes c with
      | true =>
        have shorter : (rest.drop 1).length < (c :: rest).length := by
          simp only [List.length_drop, List.length_cons]
          omega
        exact escaped q c rest h (ih _ shorter q _ rfl)
      | false =>
        have shorter : rest.length < (c :: rest).length := Nat.lt_succ_self _
        exact plain q c rest h (ih _ shorter _ _ rfl)

/-! ### References -/

def spellsReference (c : Char) : Bool :=
  c = '{' || isNameChar c

/-- Characters that neither start a reference nor change the quoting. -/
def isIdle (c : Char) : Bool :=
  c ≠ '\\' && c ≠ '\'' && c ≠ '\x22' && c ≠ '$'

private theorem isIdle_of_spellsReference {c : Char} (spells : spellsReference c = true) :
    isIdle c = true := by
  simp only [isIdle, ne_eq, Bool.and_eq_true, decide_eq_true_eq]
  refine ⟨⟨⟨?_, ?_⟩, ?_⟩, ?_⟩ <;>
  · rintro rfl
    revert spells
    decide

private theorem isIdle_of_isBlank {c : Char} (blank : Text.isBlank c = true) : isIdle c = true := by
  simp only [isIdle, ne_eq, Bool.and_eq_true, decide_eq_true_eq]
  refine ⟨⟨⟨?_, ?_⟩, ?_⟩, ?_⟩ <;>
  · rintro rfl
    revert blank
    decide

theorem Quoting.after_of_isIdle {c : Char} (idle : isIdle c = true) (q : Quoting) :
    q.after c = q := by
  unfold after
  split <;> first | rfl | exact absurd idle (by decide)

theorem Quoting.escapes_of_isIdle {c : Char} (idle : isIdle c = true) (q : Quoting) :
    q.escapes c = false := by
  have other : c ≠ '\\' := by
    rintro rfl
    revert idle
    decide
  simp [escapes, other]

theorem isNameChar_of_mem_leadingName {s : List Char} {c : Char} (hc : c ∈ leadingName s) :
    isNameChar c = true := by
  cases s with
  | nil => cases hc
  | cons d rest =>
    simp only [leadingName] at hc
    split at hc
    · rename_i start
      rcases List.mem_cons.mp hc with rfl | later
      · simp only [isNameStart, Bool.or_eq_true] at start
        simp only [isNameChar, Char.isAlphanum, Bool.or_eq_true]
        exact start.imp_right .inl
      · exact List.mem_takeWhile_imp later
    · cases hc

theorem isPrefix_leadingName (s : List Char) : leadingName s <+: s := by
  cases s with
  | nil => exact List.prefix_refl _
  | cons c rest =>
    simp only [leadingName]
    split
    · exact List.cons_prefix_cons.mpr ⟨rfl, List.takeWhile_prefix _⟩
    · exact List.nil_prefix

theorem spellsReference_of_isNameChar {c : Char} (named : isNameChar c = true) :
    spellsReference c = true := by
  simp [spellsReference, named]

private theorem leadingName_takeWhile (s : List Char) :
    leadingName (s.takeWhile spellsReference) = leadingName s := by
  cases s with
  | nil => rfl
  | cons c rest =>
    rw [List.takeWhile_cons]
    split
    · have within : (rest.takeWhile spellsReference).takeWhile isNameChar =
          rest.takeWhile isNameChar := by
        rw [List.takeWhile_takeWhile]
        congr 1
        funext d
        by_cases named : isNameChar d = true
        · simp [named, spellsReference_of_isNameChar named]
        · simp [named]
      simp only [leadingName, within]
    · rename_i silent
      have other : ¬ isNameStart c = true := by
        intro start
        have first : c ∈ leadingName (c :: rest) := by
          simp [leadingName, start]
        exact silent (spellsReference_of_isNameChar (isNameChar_of_mem_leadingName first))
      simp [leadingName, other]

theorem reference?_braced (s : List Char) : reference? ('{' :: s) =
    if (leadingName s).isEmpty then none else some (leadingName s, 1 + (leadingName s).length) :=
  rfl

theorem reference?_bare {s : List Char} (bare : s.head? ≠ some '{') : reference? s =
    if (leadingName s).isEmpty then none else some (leadingName s, (leadingName s).length) := by
  simp [reference?, bare]

theorem braced_or_bare (s : List Char) : (∃ t, s = '{' :: t) ∨ s.head? ≠ some '{' := by
  cases s with
  | nil => exact .inr (by simp)
  | cons c t =>
    by_cases brace : c = '{'
    · exact .inl ⟨t, by rw [brace]⟩
    · exact .inr (by simpa using brace)

private theorem reference?_takeWhile (s : List Char) :
    reference? (s.takeWhile spellsReference) = reference? s := by
  rcases braced_or_bare s with ⟨t, rfl⟩ | bare
  · have spelt : ('{' :: t).takeWhile spellsReference = '{' :: t.takeWhile spellsReference := by
      rw [List.takeWhile_cons, if_pos (by decide)]
    rw [spelt, reference?_braced, reference?_braced, leadingName_takeWhile]
  · have other : (s.takeWhile spellsReference).head? ≠ some '{' := by
      cases s with
      | nil => exact bare
      | cons c rest =>
        rw [List.takeWhile_cons]
        split
        · exact bare
        · simp
    rw [reference?_bare bare, reference?_bare other, leadingName_takeWhile]

private theorem reference?_congr {s t : List Char}
    (same : s.takeWhile spellsReference = t.takeWhile spellsReference) :
    reference? s = reference? t := by
  rw [← reference?_takeWhile s, same, reference?_takeWhile]

theorem spellsReference_of_reference? {s name : List Char} {width : Nat}
    (found : reference? s = some (name, width)) : ∀ c ∈ s.take width, spellsReference c = true := by
  have named (t : List Char) : ∀ c ∈ t.take (leadingName t).length, spellsReference c = true := by
    intro c hc
    rw [← List.prefix_iff_eq_take.mp (isPrefix_leadingName t)] at hc
    exact spellsReference_of_isNameChar (isNameChar_of_mem_leadingName hc)
  rcases braced_or_bare s with ⟨t, rfl⟩ | bare
  · rw [reference?_braced] at found
    split at found
    · cases found
    · obtain ⟨-, rfl⟩ := Prod.mk.inj (Option.some.inj found)
      intro c hc
      rw [Nat.add_comm, List.take_succ_cons] at hc
      rcases List.mem_cons.mp hc with rfl | later
      · decide
      · exact named t c later
  · rw [reference?_bare bare] at found
    split at found
    · cases found
    · obtain ⟨-, rfl⟩ := Prod.mk.inj (Option.some.inj found)
      exact named s

/-! ### References under quoting -/

theorem liveReferences_of_escapes {q : Quoting} {c : Char} (rest : List Char)
    (escapes : q.escapes c = true) :
    liveReferences q (c :: rest) = liveReferences q (rest.drop 1) := by
  rw [liveReferences, if_pos escapes]

private theorem liveReferences_of_isIdle {q : Quoting} {c : Char} (rest : List Char)
    (idle : isIdle c = true) : liveReferences q (c :: rest) = liveReferences q rest := by
  have other : c ≠ '$' := by
    rintro rfl
    revert idle
    decide
  rw [liveReferences, q.escapes_of_isIdle idle, q.after_of_isIdle idle]
  simp [other]

private theorem liveReferences_idle_append {q : Quoting} {idle : List Char} (rest : List Char)
    (all : ∀ c ∈ idle, isIdle c = true) :
    liveReferences q (idle ++ rest) = liveReferences q rest := by
  induction idle with
  | nil => rfl
  | cons c idle ih =>
    rw [List.cons_append, liveReferences_of_isIdle _ (all c List.mem_cons_self)]
    exact ih fun d hd => all d (List.mem_cons_of_mem _ hd)

def namesAt (q : Quoting) (c : Char) (rest : List Char) : List (List Char) :=
  if c = '$' && q.expands then ((reference? rest).map (·.1)).toList else []

theorem liveReferences_cons {q : Quoting} {c : Char} (rest : List Char)
    (plain : q.escapes c = false) :
    liveReferences q (c :: rest) = namesAt q c rest ++ liveReferences (q.after c) rest := by
  -- A text refers to the names at each of its characters. What spells a reference is idle, so it
  -- need not be passed over.
  rw [liveReferences, if_neg (by simp [plain]), namesAt]
  split
  · rename_i dollar
    have same : q.after c = q := by
      obtain rfl : c = '$' := by
        simp only [Bool.and_eq_true, decide_eq_true_eq] at dollar
        exact dollar.1
      cases q <;> rfl
    rw [same]
    split
    · rename_i name width found
      have idle : ∀ d ∈ rest.take width, isIdle d = true := fun d hd =>
        isIdle_of_spellsReference (spellsReference_of_reference? found d hd)
      have passed := liveReferences_idle_append (q := q) (rest.drop width) idle
      rw [List.take_append_drop] at passed
      simp [found, passed]
    · rename_i none
      simp [none]
  · rfl

private theorem namesAt_congr {s t : List Char} (q : Quoting) (c : Char)
    (same : s.takeWhile spellsReference = t.takeWhile spellsReference) :
    namesAt q c s = namesAt q c t := by
  rw [namesAt, namesAt, reference?_congr same]

/-! ### Cutting -/

theorem separator?_cases {q : Quoting} {before : Option Char} {c : Char} {rest : List Char}
    {more : Nat} (found : separator? q before c rest = some more) :
    q = .bare ∧ ((more = 1 ∧ rest.head? = some c ∧ (c = ';' ∨ c = '&' ∨ c = '|')) ∨
      (more = 0 ∧ rest.head? ≠ some c ∧ (c = ';' ∨
        (c = '&' ∧ before ≠ some '>' ∧ before ≠ some '<' ∧ rest.head? ≠ some '>')))) := by
  unfold separator? at found
  split at found
  · cases found
  · rename_i outside
    refine ⟨not_not.mp outside, ?_⟩
    split at found
    · rename_i semicolon
      subst semicolon
      obtain rfl := Option.some.inj found
      by_cases again : rest.head? = some ';'
      · exact Or.inl ⟨if_pos again, again, Or.inl rfl⟩
      · exact Or.inr ⟨if_neg again, again, Or.inl rfl⟩
    · split at found
      · rename_i sign
        simp only [Bool.or_eq_true, decide_eq_true_eq] at sign
        split at found
        · rename_i again
          exact Or.inl ⟨(Option.some.inj found).symm, again, Or.inr sign⟩
        · rename_i alone
          split at found
          · rename_i free
            simp only [Bool.and_eq_true, decide_eq_true_eq] at free
            obtain ⟨⟨⟨ampersand, notAbove⟩, notBelow⟩, notAfter⟩ := free
            exact Or.inr ⟨(Option.some.inj found).symm, alone,
              Or.inr ⟨ampersand, notAbove, notBelow, notAfter⟩⟩
          · cases found
      · cases found

theorem separator?_eq_some {q : Quoting} {before : Option Char} {c : Char} {rest : List Char}
    {more : Nat} (found : separator? q before c rest = some more) :
    q = .bare ∧ c ∈ [';', '&', '|'] ∧ ∀ d ∈ c :: rest.take more, d = c := by
  obtain ⟨bare, ⟨rfl, again, sign⟩ | ⟨rfl, -, sign⟩⟩ := separator?_cases found
  · obtain ⟨beyond, rfl⟩ := List.head?_eq_some_iff.mp again
    exact ⟨bare, by simpa using sign, by simp⟩
  · have known : c = ';' ∨ c = '&' := sign.imp_right And.left
    exact ⟨bare, by rcases known with rfl | rfl <;> simp, by simp⟩

theorem idle_of_separator? {q : Quoting} {before : Option Char} {c : Char} {rest : List Char}
    {more : Nat} (found : separator? q before c rest = some more) :
    spellsReference c = false ∧ ∀ d ∈ c :: rest.take more, isIdle d = true := by
  obtain ⟨-, sign, same⟩ := separator?_eq_some found
  have idle : ∀ c ∈ [';', '&', '|'], spellsReference c = false ∧ isIdle c = true := by
    simp only [List.forall_mem_cons]
    exact ⟨by decide, by decide, by decide, List.forall_mem_nil _⟩
  refine ⟨(idle c sign).1, ?_⟩
  intro d hd
  rw [same d hd]
  exact (idle c sign).2

private theorem spellsReference_of_escapes {q : Quoting} {c : Char} (escapes : q.escapes c = true) :
    spellsReference c = false := by
  obtain rfl : c = '\\' := by
    simp only [Quoting.escapes, Bool.and_eq_true, decide_eq_true_eq] at escapes
    exact escapes.1
  decide

private theorem takeWhile_cut (before : Option Char) (q : Quoting) (s : List Char) :
    (cut before q s).first.takeWhile spellsReference = s.takeWhile spellsReference := by
  fun_induction cut before q s with
  | case1 => rfl
  | case2 before q c rest escapes r ih =>
    simp [spellsReference_of_escapes escapes]
  | case3 before q c rest plain more found r ih =>
    simp [(idle_of_separator? found).1]
  | case4 before q c rest plain none r ih =>
    rw [List.takeWhile_cons, List.takeWhile_cons, ih]

private theorem liveReferences_cut (before : Option Char) (q : Quoting) (s : List Char) :
    liveReferences q s = liveReferences q (cut before q s).first ++
      (cut before q s).later.flatMap (liveReferences .bare) := by
  fun_induction cut before q s with
  | case1 => simp [liveReferences]
  | case2 before q c rest escapes r ih =>
    -- the first piece takes the escaped character along, so its references are those after it
    have passed : liveReferences q (c :: (rest.take 1 ++ r.first)) = liveReferences q r.first := by
      rw [liveReferences_of_escapes _ escapes]
      cases rest with
      | nil => simp [r, cut]
      | cons d rest => rfl
    rw [liveReferences_of_escapes _ escapes, passed, ih]
  | case3 before q c rest plain more found r ih =>
    obtain ⟨rfl, -⟩ := separator?_eq_some found
    have passed := liveReferences_idle_append (q := .bare) (rest.drop more)
      (idle_of_separator? found).2
    rw [List.cons_append, List.take_append_drop] at passed
    rw [passed, ih, List.flatMap_cons, liveReferences, List.nil_append]
  | case4 before q c rest plain none r ih =>
    have plain : q.escapes c = false := by simpa using plain
    have names := namesAt_congr q c (takeWhile_cut (some c) (q.after c) rest)
    rw [liveReferences_cons _ plain, liveReferences_cons _ plain, ih, names, List.append_assoc]

theorem Cut.segments_cases (t : Cut) :
    t.segments = t.first :: t.later ∨ t.first :: t.later = t.segments ++ [[]] := by
  unfold segments
  dsimp only
  split
  · rename_i empty
    right
    have last : (t.first :: t.later).getLast (List.cons_ne_nil _ _) = [] := by
      rw [List.getLast_eq_getLastD, ← List.isEmpty_iff, ← List.getLastD_cons]
      exact empty
    rw [← last, List.dropLast_concat_getLast]
  · exact .inl rfl

private theorem liveReferences_segments (text : List Char) :
    (segments text).flatMap (liveReferences .bare) = liveReferences .bare text := by
  rw [liveReferences_cut none, ← List.flatMap_cons, segments]
  rcases (cut none .bare text).segments_cases with all | more
  · rw [all]
  · rw [more, List.flatMap_append, List.flatMap_singleton, liveReferences, List.append_nil]

/-! ### Trimming -/

private theorem toNat_of_isNameChar {c : Char} (named : isNameChar c = true) :
    48 ≤ c.toNat ∧ c.toNat ≤ 122 := by
  delta isNameChar Char.isAlphanum Char.isAlpha Char.isUpper Char.isLower Char.isDigit at named
  simp only [Bool.or_eq_true, Bool.and_eq_true, decide_eq_true_eq, ge_iff_le,
    UInt32.le_iff_toNat_le] at named
  rcases named with rfl | (upper | lower) | digit
  · decide
  · simp at upper
    omega
  · simp at lower
    omega
  · simp at digit
    omega

theorem spellsReference_of_isBlank {c : Char} (blank : Text.isBlank c = true) :
    spellsReference c = false := by
  rw [← Bool.not_eq_true]
  intro spells
  simp only [spellsReference, Bool.or_eq_true, decide_eq_true_eq] at spells
  rcases spells with rfl | named
  · revert blank
    decide
  · have bounds := toNat_of_isNameChar named
    simp only [Text.isBlank, Bool.or_eq_true, Bool.and_eq_true, decide_eq_true_eq,
      beq_iff_eq] at blank
    omega

private theorem takeWhile_append_blanks (s : List Char) {blanks : List Char}
    (all : ∀ c ∈ blanks, Text.isBlank c = true) :
    (s ++ blanks).takeWhile spellsReference = s.takeWhile spellsReference := by
  have silent : blanks.takeWhile spellsReference = [] := by
    cases blanks with
    | nil => rfl
    | cons c rest =>
      simp [spellsReference_of_isBlank (all c List.mem_cons_self)]
  rw [List.takeWhile_append, silent, List.append_nil]
  split
  · rename_i whole
    exact ((List.takeWhile_prefix _).eq_of_length whole).symm
  · rfl

private theorem liveReferences_append_blanks (q : Quoting) (s : List Char) {blanks : List Char}
    (all : ∀ c ∈ blanks, Text.isBlank c = true) :
    liveReferences q (s ++ blanks) = liveReferences q s := by
  have none (q : Quoting) {idle : List Char} (all : ∀ c ∈ idle, Text.isBlank c = true) :
      liveReferences q idle = [] := by
    have passed := liveReferences_idle_append (q := q) [] fun c hc => isIdle_of_isBlank (all c hc)
    rw [List.append_nil] at passed
    rw [passed, liveReferences]
  induction q, s using Quoting.reading with
  | nil q => rw [List.nil_append, none q all, liveReferences]
  | escaped q c rest escapes ih =>
    rw [List.cons_append, liveReferences_of_escapes _ escapes, liveReferences_of_escapes _ escapes]
    cases rest with
    | nil =>
      have fewer : ∀ d ∈ blanks.drop 1, Text.isBlank d = true :=
        fun d hd => all d (List.mem_of_mem_drop hd)
      rw [List.nil_append, none q fewer, List.drop_nil, liveReferences]
    | cons d rest => exact ih
  | plain q c rest plain ih =>
    have names := namesAt_congr q c (takeWhile_append_blanks rest all)
    rw [List.cons_append, liveReferences_cons _ plain, liveReferences_cons _ plain, ih, names]

private theorem liveReferences_trimStart (s : List Char) :
    liveReferences .bare (Text.trimStart s) = liveReferences .bare s := by
  have blanks : ∀ c ∈ s.takeWhile Text.isBlank, isIdle c = true :=
    fun c hc => isIdle_of_isBlank (List.mem_takeWhile_imp hc)
  have passed := liveReferences_idle_append (q := .bare) (s.dropWhile Text.isBlank) blanks
  rw [List.takeWhile_append_dropWhile] at passed
  exact passed.symm

theorem trimEnd_append (s : List Char) :
    ∃ blanks, (∀ c ∈ blanks, Text.isBlank c = true) ∧ Text.trimEnd s ++ blanks = s := by
  refine ⟨(s.reverse.takeWhile Text.isBlank).reverse, ?_, ?_⟩
  · intro c hc
    exact List.mem_takeWhile_imp (List.mem_reverse.mp hc)
  · rw [Text.trimEnd, ← List.reverse_append, List.takeWhile_append_dropWhile, List.reverse_reverse]

private theorem liveReferences_trimEnd (s : List Char) :
    liveReferences .bare (Text.trimEnd s) = liveReferences .bare s := by
  obtain ⟨blanks, all, parts⟩ := trimEnd_append s
  have passed := liveReferences_append_blanks .bare (Text.trimEnd s) all
  rw [parts] at passed
  exact passed.symm

/-! ### Keywords -/

private theorem eq_append_of_afterWord? {word : String} {s rest : List Char}
    (found : afterWord? word s = some rest) : s = word.toList ++ rest := by
  unfold afterWord? at found
  exact (List.append_eq_of_isPrefixOf?_eq_some found).symm

theorem eq_trimStart_of_afterKeyword? {keyword : String} {s rest : List Char}
    (found : afterKeyword? keyword s = some rest) :
    ∃ after, s = keyword.toList ++ after ∧ rest = Text.trimStart after := by
  obtain ⟨after, hafter, found⟩ := Option.bind_eq_some_iff.mp found
  split at found
  · exact ⟨after, eq_append_of_afterWord? hafter, (Option.some.inj found).symm⟩
  · cases found

private theorem liveReferences_afterKeyword? {keyword : String} (known : keyword ∈ leadingKeywords)
    {s rest : List Char} (found : afterKeyword? keyword s = some rest) :
    liveReferences .bare rest = liveReferences .bare s := by
  have idle : ∀ k ∈ leadingKeywords, ∀ c ∈ k.toList, isIdle c = true := by
    simp only [← List.all_eq_true]
    decide
  obtain ⟨after, rfl, rfl⟩ := eq_trimStart_of_afterKeyword? found
  rw [liveReferences_idle_append _ (idle keyword known), liveReferences_trimStart]

private theorem liveReferences_stripKeywords (s : List Char) :
    liveReferences .bare (stripKeywords s) = liveReferences .bare s := by
  have turns (n : Nat) : liveReferences .bare (stripKeywordsFor n s) = liveReferences .bare s := by
    induction n generalizing s with
    | zero => rfl
    | succ n ih =>
      rw [stripKeywordsFor]
      split
      · rename_i rest found
        obtain ⟨keyword, known, after⟩ := List.exists_of_findSome?_eq_some found
        rw [ih, liveReferences_afterKeyword? known after]
      · rfl
  exact turns s.length

def commandOf (segment : List Char) : List Char :=
  stripKeywords (Text.trim segment)

private theorem liveReferences_commandOf (segment : List Char) :
    liveReferences .bare (commandOf segment) = liveReferences .bare segment := by
  rw [commandOf, liveReferences_stripKeywords, Text.trim, liveReferences_trimEnd,
    liveReferences_trimStart]

/-! ### Names without repeats -/

section Repeats

variable {α β : Type} [BEq β] [LawfulBEq β]

private theorem eraseDups_filter (keep : β → Bool) (xs : List β) :
    (xs.filter keep).eraseDups = xs.eraseDups.filter keep := by
  induction hn : xs.length using Nat.strong_induction_on generalizing xs with
  | _ n ih =>
    subst hn
    cases xs with
    | nil => simp
    | cons x rest =>
      have shorter : (rest.filter fun y => !y == x).length < (x :: rest).length :=
        Nat.lt_succ_of_le (List.length_filter_le _ _)
      have others := ih _ shorter _ rfl
      rw [List.filter_filter] at others
      rw [List.eraseDups_cons, List.filter_cons, List.filter_cons, ← others]
      split
      · rw [List.eraseDups_cons, List.filter_filter]
        congr 3
        funext y
        exact Bool.and_comm _ _
      · rename_i dropped
        -- the element that is dropped is none of those that are kept
        congr 1
        refine List.filter_congr fun y _ => ?_
        by_cases same : y = x
        · simp [same, dropped]
        · simp [same]

private theorem eraseDups_eraseDups (xs : List β) : xs.eraseDups.eraseDups = xs.eraseDups := by
  induction hn : xs.length using Nat.strong_induction_on generalizing xs with
  | _ n ih =>
    subst hn
    cases xs with
    | nil => simp
    | cons x rest =>
      have shorter : rest.length < (x :: rest).length := Nat.lt_succ_self _
      rw [List.eraseDups_cons, eraseDups_filter, List.eraseDups_cons, List.filter_filter,
        eraseDups_filter, ih _ shorter _ rfl]
      simp

private theorem eraseDups_append_eq (xs ys : List β) :
    (xs ++ ys).eraseDups = xs.eraseDups ++ ys.eraseDups.filter fun y => !xs.eraseDups.elem y := by
  rw [List.eraseDups_append, List.removeAll, eraseDups_filter]
  congr 1
  refine List.filter_congr fun y _ => ?_
  rw [Bool.eq_iff_iff]
  simp

private theorem eraseDups_flatMap (f : α → List β) (parts : List α) :
    (parts.flatMap fun part => (f part).eraseDups).eraseDups = (parts.flatMap f).eraseDups := by
  induction parts with
  | nil => rfl
  | cons part rest ih =>
    rw [List.flatMap_cons, List.flatMap_cons, eraseDups_append_eq, eraseDups_append_eq, ih,
      eraseDups_eraseDups]

end Repeats

/-! ### Statements -/

/-- The texts of the statements that segments make; a segment whose text is empty makes none. -/
def commands (segments : List (List Char)) : List (List Char) :=
  (segments.map commandOf).filter (· ≠ [])

private theorem commands_cons (segment : List Char) (rest : List (List Char)) :
    commands (segment :: rest) =
      if commandOf segment = [] then commands rest else commandOf segment :: commands rest := by
  unfold commands
  rw [List.map_cons, List.filter_cons]
  by_cases empty : commandOf segment = []
  · simp [empty]
  · simp [empty]

theorem statementsFrom_cons (line index : Nat) (doc : Option HereDoc) (segment : List Char)
    (rest : List (List Char)) : statementsFrom line index doc (segment :: rest) =
      if commandOf segment = [] then statementsFrom line (index + 1) doc rest
      else if hasHereOperator (commandOf segment) then
        Statement.read line index (commandOf segment) doc :: statementsFrom line (index + 1) none rest
      else
        Statement.read line index (commandOf segment) none ::
          statementsFrom line (index + 1) doc rest := by
  rw [statementsFrom, ← commandOf]
  by_cases empty : commandOf segment = []
  · rw [if_pos empty, if_pos (List.isEmpty_iff.mpr empty)]
  · rw [if_neg empty, if_neg (mt List.isEmpty_iff.mp empty)]

private theorem liveReferences_commands (segments : List (List Char)) :
    (commands segments).flatMap (liveReferences .bare) =
      segments.flatMap (liveReferences .bare) := by
  induction segments with
  | nil => rfl
  | cons segment rest ih =>
    rw [commands_cons, List.flatMap_cons, ← liveReferences_commandOf segment, ← ih]
    split
    · rename_i empty
      rw [empty, liveReferences, List.nil_append]
    · rw [List.flatMap_cons]

private theorem statementsFrom_none (line index : Nat) (segments : List (List Char)) :
    (statementsFrom line index none segments).map (fun s => (s.text, s.variableNames)) =
      (commands segments).map fun text =>
        (String.ofList text, ((liveReferences .bare text).map String.ofList).eraseDups) := by
  induction segments generalizing index with
  | nil => rfl
  | cons segment rest ih =>
    rw [statementsFrom_cons, commands_cons, ite_self]
    split
    · exact ih (index + 1)
    · rw [List.map_cons, List.map_cons, ih]
      simp [Statement.read]

/-- Cutting a line keeps its variables. The statements of a line without a here-document are made of
the segments that are not empty without blanks and keywords, and the variables of the line are those
of its statements, one statement after the other, each where it comes first. -/
theorem LogicalLine.splitting_keeps_variables (line : Nat) (text : List Char) :
    let statements := (LogicalLine.mk line text none).statements
    statements.map (·.text) =
      (((segments text).map fun segment => stripKeywords (Text.trim segment)).filter (· ≠ [])).map
        String.ofList ∧
    (∀ s ∈ statements, s.variableNames = variableNames s.text true) ∧
    variableNames (String.ofList text) true =
      (statements.flatMap (·.variableNames)).eraseDups := by
  intro statements
  have made : statements.map (fun s => (s.text, s.variableNames)) =
      (commands (segments text)).map fun text =>
        (String.ofList text, ((liveReferences .bare text).map String.ofList).eraseDups) :=
    statementsFrom_none line 0 (segments text)
  refine ⟨?_, ?_, ?_⟩
  · have texts := congrArg (List.map Prod.fst) made
    rw [List.map_map, List.map_map] at texts
    exact texts
  · intro s hs
    have among := List.mem_map_of_mem (f := fun s : Statement => (s.text, s.variableNames)) hs
    rw [made] at among
    obtain ⟨command, _, same⟩ := List.mem_map.mp among
    obtain ⟨htext, hnames⟩ := Prod.mk.inj same
    rw [← hnames, ← htext, variableNames, if_pos rfl, String.toList_ofList]
  · have names := congrArg (List.flatMap Prod.snd) made
    rw [List.flatMap_map, List.flatMap_map] at names
    rw [names, eraseDups_flatMap, ← List.map_flatMap, liveReferences_commands,
      liveReferences_segments, variableNames, if_pos rfl, String.toList_ofList]

end SecretFlow.Shell

import SecretFlow.Proofs.HereOperators

set_option autoImplicit false
set_option relaxedAutoImplicit false

/-!
Here-documents. A line opens one at its first operator, wherever that stands, also between quotes;
the body is what follows up to the delimiter, and goes to the first statement of the line in which
two less-than signs stand in a row. So the body is with the statement of the operator exactly if no
statement before it holds such signs, as a here-string or a shift does.
-/

namespace SecretFlow.Shell

open Text (isBlank trim dropEnd?)

/-! ### The statement of an operator -/

def Cut.pieces (t : Cut) : List (List Char) :=
  t.first :: t.later

def Cut.after (text : List Char) (t : Cut) : Cut :=
  ⟨text ++ t.first, t.later⟩

/-- The last piece of a cut goes on with the first piece of another. -/
def Cut.append (t u : Cut) : Cut :=
  match t with
  | ⟨first, []⟩ => u.after first
  | ⟨first, piece :: later⟩ => ⟨first, ((Cut.mk piece later).append u).pieces⟩
termination_by t.later.length

private theorem Cut.pieces_append (t u : Cut) : ∃ earlier last, t.pieces = earlier ++ [last] ∧
    (t.append u).pieces = earlier ++ (last ++ u.first) :: u.later := by
  fun_induction Cut.append t u with
  | case1 first => exact ⟨[], first, rfl, rfl⟩
  | case2 first piece later ih =>
    obtain ⟨earlier, last, parts, whole⟩ := ih
    refine ⟨first :: earlier, last, ?_, ?_⟩
    · rw [List.cons_append, ← parts]
      rfl
    · rw [List.cons_append, ← whole]
      rfl

private theorem Cut.after_append (text : List Char) (t u : Cut) :
    (t.after text).append u = (t.append u).after text := by
  obtain ⟨first, later⟩ := t
  cases later with
  | nil => simp [Cut.append, Cut.after]
  | cons piece later =>
    simp only [Cut.after]
    rw [Cut.append, Cut.append]

private theorem separator?_append_sign (q : Quoting) (before : Option Char) (c : Char)
    (rest beyond : List Char) :
    separator? q before c (rest ++ '<' :: beyond) = separator? q before c rest := by
  cases rest with
  | cons d rest => rfl
  | nil =>
    unfold separator?
    split
    · rfl
    · split
      · rfl
      · split
        · rename_i sign
          have other : c ≠ '<' := by
            rintro rfl
            revert sign
            decide
          simp [other.symm]
        · rfl

theorem length_of_separator? {q : Quoting} {before : Option Char} {c : Char} {rest : List Char}
    {more : Nat} (found : separator? q before c rest = some more) : more ≤ rest.length := by
  obtain ⟨-, ⟨rfl, again, -⟩ | ⟨rfl, -⟩⟩ := separator?_cases found
  · obtain ⟨beyond, rfl⟩ := List.head?_eq_some_iff.mp again
    simp
  · exact Nat.zero_le _

private theorem cut_sign (before : Option Char) (q : Quoting) (rest : List Char) :
    cut before q ('<' :: rest) = (cut (some '<') q rest).after ['<'] := by
  have plain : q.escapes '<' = false := q.escapes_of_isIdle (by decide)
  have same : q.after '<' = q := q.after_of_isIdle (by decide)
  have none : separator? q before '<' rest = none := by
    cases q <;> simp [separator?]
  rw [cut, plain, none, same]
  rfl

private theorem cut_append_sign (before : Option Char) (q : Quoting) (text beyond : List Char) :
    ∃ inside, cut before q (text ++ '<' :: beyond) =
      (cut before q text).append ((cut (some '<') inside beyond).after ['<']) := by
  fun_induction cut before q text with
  | case1 before q =>
    refine ⟨q, ?_⟩
    rw [List.nil_append, cut_sign, Cut.append]
    rfl
  | case2 before q c rest escapes r ih =>
    cases rest with
    | nil =>
      -- the sign itself is escaped
      refine ⟨q, ?_⟩
      rw [List.cons_append, List.nil_append, cut, if_pos escapes]
      simp [r, cut, Cut.append, Cut.after]
    | cons d rest =>
      obtain ⟨inside, whole⟩ := ih
      refine ⟨inside, ?_⟩
      have taken : cut before q (c :: d :: rest ++ '<' :: beyond) =
          (cut (some d) q (rest ++ '<' :: beyond)).after [c, d] := by
        rw [List.cons_append, List.cons_append, cut, if_pos escapes]
        rfl
      rw [taken]
      refine Eq.trans ?_ (Cut.after_append [c, d] r _).symm
      exact congrArg (Cut.after [c, d]) whole
  | case3 before q c rest plain more found r ih =>
    obtain ⟨inside, whole⟩ := ih
    refine ⟨inside, ?_⟩
    have dropped : (rest ++ '<' :: beyond).drop more = rest.drop more ++ '<' :: beyond :=
      List.drop_append_of_le_length (length_of_separator? found)
    rw [List.cons_append, cut, if_neg plain, separator?_append_sign, found]
    simp only [dropped, whole]
    rw [Cut.append]
    rfl
  | case4 before q c rest plain none r ih =>
    obtain ⟨inside, whole⟩ := ih
    refine ⟨inside, ?_⟩
    rw [List.cons_append, cut, if_neg plain, separator?_append_sign, none]
    refine Eq.trans ?_ (Cut.after_append [c] r _).symm
    exact congrArg (Cut.after [c]) whole

private theorem pieces_append_signs (before beyond : List Char) : ∃ earlier start more later,
    (cut none .bare before).pieces = earlier ++ [start] ∧
    (cut none .bare (before ++ '<' :: '<' :: beyond)).pieces =
      earlier ++ (start ++ '<' :: '<' :: more) :: later := by
  obtain ⟨inside, whole⟩ := cut_append_sign none .bare before ('<' :: beyond)
  rw [whole, cut_sign]
  obtain ⟨earlier, start, parts, goes⟩ := (cut none .bare before).pieces_append
    (((cut (some '<') inside beyond).after ['<']).after ['<'])
  exact ⟨earlier, start, _, _, parts, goes⟩

private theorem segments_of_pieces {text piece : List Char} {earlier later : List (List Char)}
    (parts : (cut none .bare text).pieces = earlier ++ piece :: later) (nonempty : piece ≠ []) :
    ∃ rest, segments text = earlier ++ piece :: rest := by
  rcases (cut none .bare text).segments_cases with all | more
  · exact ⟨later, all.trans parts⟩
  · have same : earlier ++ piece :: later = segments text ++ [[]] := parts.symm.trans more
    rcases List.eq_nil_or_concat later with rfl | ⟨rest, last, rfl⟩
    · obtain ⟨-, empty⟩ := List.append_inj' same rfl
      exact absurd (List.cons.inj empty).1 nonempty
    · rw [List.concat_eq_append, ← List.cons_append, ← List.append_assoc] at same
      exact ⟨rest, (List.append_inj' same rfl).1.symm⟩

/-! ### Signs in statements -/

private theorem hasHereOperator_cons {c : Char} {s : List Char}
    (other : c ≠ '<' ∨ s.head? ≠ some '<') : hasHereOperator (c :: s) = hasHereOperator s := by
  rw [hasHereOperator]
  rintro rest rfl rfl
  simp at other

private theorem hasHereOperator_signs (before beyond : List Char) :
    hasHereOperator (before ++ '<' :: '<' :: beyond) = true := by
  induction before with
  | nil => rfl
  | cons c before ih =>
    rw [List.cons_append]
    by_cases signs : c ≠ '<' ∨ (before ++ '<' :: '<' :: beyond).head? ≠ some '<'
    · rw [hasHereOperator_cons signs, ih]
    · obtain ⟨rfl, second⟩ := not_or.mp signs |>.imp not_not.mp not_not.mp
      obtain ⟨rest, hrest⟩ := List.head?_eq_some_iff.mp second
      rw [hrest]
      rfl

private theorem hasHereOperator_append_left {silent : List Char} (signs : '<' ∉ silent)
    (s : List Char) : hasHereOperator (silent ++ s) = hasHereOperator s := by
  induction silent with
  | nil => rfl
  | cons c silent ih =>
    have first : c ≠ '<' := fun same => signs (same ▸ List.mem_cons_self)
    rw [List.cons_append, hasHereOperator_cons (.inl first)]
    exact ih fun later => signs (List.mem_cons_of_mem _ later)

private theorem hasHereOperator_append_right {silent : List Char} (signs : '<' ∉ silent)
    (s : List Char) : hasHereOperator (s ++ silent) = hasHereOperator s := by
  fun_induction hasHereOperator s with
  | case1 rest => rfl
  | case2 c rest other ih =>
    have apart : c ≠ '<' ∨ (rest ++ silent).head? ≠ some '<' := by
      by_cases sign : c = '<'
      · right
        cases rest with
        | nil =>
          intro head
          exact signs (List.mem_of_head? head)
        | cons d rest =>
          intro head
          exact other rest sign (by rw [Option.some.inj head])
      · exact .inl sign
    rw [List.cons_append, hasHereOperator_cons apart, ih]
  | case3 =>
    have none := hasHereOperator_append_left signs []
    rwa [List.append_nil] at none

private theorem not_mem_of_isBlank {blanks : List Char} (all : ∀ c ∈ blanks, isBlank c = true) :
    '<' ∉ blanks := by
  intro sign
  have blank := all _ sign
  revert blank
  decide

private theorem hasHereOperator_trimStart (s : List Char) :
    hasHereOperator (Text.trimStart s) = hasHereOperator s := by
  have blanks : ∀ c ∈ s.takeWhile isBlank, isBlank c = true := fun c hc => List.mem_takeWhile_imp hc
  have passed := hasHereOperator_append_left (not_mem_of_isBlank blanks) (s.dropWhile isBlank)
  rw [List.takeWhile_append_dropWhile] at passed
  exact passed.symm

private theorem hasHereOperator_trimEnd (s : List Char) :
    hasHereOperator (Text.trimEnd s) = hasHereOperator s := by
  obtain ⟨blanks, all, parts⟩ := trimEnd_append s
  have passed := hasHereOperator_append_right (not_mem_of_isBlank all) (Text.trimEnd s)
  rw [parts] at passed
  exact passed.symm

theorem hasHereOperator_commandOf (segment : List Char) :
    hasHereOperator (commandOf segment) = hasHereOperator segment := by
  -- neither blanks nor keywords have less-than signs, so stripping them keeps those of a segment
  have silent : ∀ k ∈ leadingKeywords, '<' ∉ k.toList := by decide
  have turns (n : Nat) (s : List Char) :
      hasHereOperator (stripKeywordsFor n s) = hasHereOperator s := by
    induction n generalizing s with
    | zero => rfl
    | succ n ih =>
      rw [stripKeywordsFor]
      split
      · rename_i rest found
        obtain ⟨keyword, known, after⟩ := List.exists_of_findSome?_eq_some found
        obtain ⟨beyond, parts, rfl⟩ := eq_trimStart_of_afterKeyword? after
        rw [ih, hasHereOperator_trimStart, parts, hasHereOperator_append_left (silent keyword known)]
      · rfl
  rw [commandOf, stripKeywords, turns, Text.trim, hasHereOperator_trimEnd, hasHereOperator_trimStart]

/-- The here-document that goes to a segment: the one of the line, if the segment is the first with
two less-than signs in a row. -/
def docOf (doc : Option HereDoc) (earlier : List (List Char)) (segment : List Char) : Option HereDoc :=
  if hasHereOperator segment && !earlier.any hasHereOperator then doc else none

private theorem docOf_cons (doc : Option HereDoc) (first : List Char) (earlier : List (List Char))
    (segment : List Char) : docOf doc (first :: earlier) segment =
      docOf (if hasHereOperator first then none else doc) earlier segment := by
  unfold docOf
  rw [List.any_cons]
  cases hasHereOperator first <;> simp

theorem statementsFrom_cons_eq (line index : Nat) (doc : Option HereDoc) (segment : List Char)
    (rest : List (List Char)) : statementsFrom line index doc (segment :: rest) =
      (if commandOf segment = [] then []
        else [Statement.read line index (commandOf segment) (docOf doc [] segment)]) ++
      statementsFrom line (index + 1) (if hasHereOperator segment then none else doc) rest := by
  have signs := hasHereOperator_commandOf segment
  rw [statementsFrom_cons]
  by_cases empty : commandOf segment = []
  · have none : hasHereOperator segment = false := by
      rw [← signs, empty]
      rfl
    simp [empty, none]
  · rw [if_neg empty, if_neg empty, signs]
    cases h : hasHereOperator segment <;> simp [docOf, h]

theorem mem_statementsFrom {line index : Nat} {doc : Option HereDoc} {segments : List (List Char)}
    {s : Statement} : s ∈ statementsFrom line index doc segments ↔
      ∃ earlier segment later, segments = earlier ++ segment :: later ∧ commandOf segment ≠ [] ∧
        s = Statement.read line (index + earlier.length) (commandOf segment)
          (docOf doc earlier segment) := by
  induction segments generalizing index doc with
  | nil => simp [statementsFrom]
  | cons segment rest ih =>
    rw [statementsFrom_cons_eq, List.mem_append, ih]
    constructor
    · rintro (here | ⟨earlier, later, beyond, rfl, nonempty, rfl⟩)
      · split at here
        · cases here
        · rename_i nonempty
          exact ⟨[], segment, rest, rfl, nonempty, List.mem_singleton.mp here⟩
      · refine ⟨segment :: earlier, later, beyond, rfl, nonempty, ?_⟩
        rw [docOf_cons, List.length_cons, Nat.add_assoc, Nat.add_comm 1]
    · rintro ⟨earlier, here, later, parts, nonempty, rfl⟩
      cases earlier with
      | nil =>
        obtain ⟨rfl, rfl⟩ := List.cons.inj parts
        left
        rw [if_neg nonempty]
        exact List.mem_singleton_self _
      | cons first earlier =>
        obtain ⟨rfl, rfl⟩ := List.cons.inj parts
        refine .inr ⟨earlier, here, later, rfl, nonempty, ?_⟩
        rw [docOf_cons, List.length_cons, Nat.add_assoc, Nat.add_comm 1]

theorem LogicalLine.mem_statements {l : LogicalLine} {s : Statement} : s ∈ l.statements ↔
    ∃ earlier segment later, segments l.text = earlier ++ segment :: later ∧ commandOf segment ≠ [] ∧
      s = Statement.read l.line earlier.length (commandOf segment)
        (docOf l.hereDoc earlier segment) := by
  rw [LogicalLine.statements, mem_statementsFrom]
  simp only [Nat.zero_add]

/-- A statement with two less-than signs in a row. -/
def Statement.HasSigns (s : Statement) : Prop :=
  hasHereOperator s.text.toList = true

theorem hasSigns_read (line index : Nat) (segment : List Char) (doc : Option HereDoc) :
    (Statement.read line index (commandOf segment) doc).HasSigns ↔ hasHereOperator segment = true := by
  rw [Statement.HasSigns, ← hasHereOperator_commandOf segment]
  show hasHereOperator (String.ofList (commandOf segment)).toList = true ↔ _
  rw [String.toList_ofList]

private theorem LogicalLine.body_eq_some_iff {l : LogicalLine} {s : Statement}
    (hs : s ∈ l.statements) (body : String) : s.body = some body ↔
      (∃ doc, l.hereDoc = some doc ∧ body = String.ofList doc.body) ∧ s.HasSigns ∧
        ∀ t ∈ l.statements, t.index < s.index → ¬ t.HasSigns := by
  obtain ⟨earlier, segment, later, parts, nonempty, rfl⟩ := mem_statements.mp hs
  have before : (∀ t ∈ l.statements, t.index < earlier.length → ¬ t.HasSigns) ↔
      ∀ e ∈ earlier, ¬ hasHereOperator e = true := by
    constructor
    · intro none e he signs
      obtain ⟨first, rest, rfl⟩ := List.append_of_mem he
      have nonempty : commandOf e ≠ [] := by
        intro empty
        rw [← hasHereOperator_commandOf, empty] at signs
        cases signs
      have among : Statement.read l.line first.length (commandOf e) (docOf l.hereDoc first e) ∈
          l.statements := by
        refine mem_statements.mpr ⟨first, e, rest ++ segment :: later, ?_, nonempty, rfl⟩
        rw [parts, List.append_assoc, List.cons_append]
      refine none _ among ?_ ((hasSigns_read _ _ _ _).mpr signs)
      show first.length < (first ++ e :: rest).length
      rw [List.length_append, List.length_cons]
      omega
    · rintro none t ht smaller signs
      obtain ⟨first, other, rest, parts', -, rfl⟩ := mem_statements.mp ht
      have less : first.length < earlier.length := smaller
      have other_mem : other ∈ earlier := by
        have there : (earlier ++ segment :: later)[first.length]? = some other := by
          rw [← parts, parts']
          simp
        rw [List.getElem?_append_left less] at there
        exact List.mem_of_getElem? there
      exact none other other_mem ((hasSigns_read _ _ _ _).mp signs)
  rw [hasSigns_read]
  show (docOf l.hereDoc earlier segment).map (fun d => String.ofList d.body) = some body ↔
    _ ∧ _ ∧ ∀ t ∈ l.statements, t.index < earlier.length → ¬ t.HasSigns
  have first : (hasHereOperator segment && !earlier.any hasHereOperator) = true ↔
      hasHereOperator segment = true ∧ ∀ e ∈ earlier, ¬ hasHereOperator e = true := by
    simp
  rw [before, docOf, ← first]
  split
  · rename_i takes
    rw [Option.map_eq_some_iff]
    simp only [takes, and_true, eq_comm]
  · rename_i leaves
    simp [leaves]

/-! ### The lines of a script -/

/-- A physical line that has no command: it is blank or a comment. -/
def isIdleLine (raw : List Char) : Bool :=
  (trim raw).isEmpty || (trim raw).head? = some '#'

def continues (raw : List Char) : Bool :=
  (dropEnd? '\\' (trim raw)).isSome

/-- What a physical line adds to a logical one: a backslash at its end stands for a blank. -/
def partOf (raw : List Char) : List Char :=
  match dropEnd? '\\' (trim raw) with
  | some continued => continued ++ [' ']
  | none => trim raw

def StartsCommand (own : List (List Char)) : Prop :=
  ∀ raw, own.head? = some raw → isIdleLine raw = false

/-- How the physical lines of a script, the first of which has the given number, are read. Lines
without a command are passed over. Lines that go on, with the one after them, are a logical line; if
an operator stands in it, the lines up to the delimiter are the body of its here-document. Nothing
else is passed over. -/
inductive Reading : Nat → List (List Char) → List LogicalLine → Prop
  | done {n : Nat} : Reading n [] []
  | idle {n : Nat} {raw : List Char} {rest : List (List Char)} {ls : List LogicalLine}
      (idle : isIdleLine raw = true) (later : Reading (n + 1) rest ls) : Reading n (raw :: rest) ls
  | cutShort {n : Nat} {own : List (List Char)} (nonempty : own ≠ []) (starts : StartsCommand own)
      (continued : ∀ raw ∈ own, continues raw = true) :
      Reading n own [⟨n, own.flatMap partOf, none⟩]
  | plain {n : Nat} {own rest : List (List Char)} {last : List Char} {ls : List LogicalLine}
      (starts : StartsCommand (own ++ [last])) (continued : ∀ raw ∈ own, continues raw = true)
      (ends : continues last = false)
      (absent : ∀ before after, ¬ OperatorAt none ((own ++ [last]).flatMap partOf) before after)
      (later : Reading (n + own.length + 1) rest ls) :
      Reading n (own ++ last :: rest) (⟨n, (own ++ [last]).flatMap partOf, none⟩ :: ls)
  | opened {n : Nat} {own body rest : List (List Char)} {last before after : List Char}
      {closing : Option (List Char)} {o : HereDocOpener} {ls : List LogicalLine}
      (starts : StartsCommand (own ++ [last])) (continued : ∀ raw ∈ own, continues raw = true)
      (ends : continues last = false)
      (operator : FirstOperator o ((own ++ [last]).flatMap partOf) before after)
      (within : ∀ raw ∈ body, trim raw ≠ o.delimiter)
      (closes : ∀ raw, closing = some raw → trim raw = o.delimiter)
      (unclosed : closing = none → rest = [])
      (later : Reading (n + own.length + body.length + 2) rest ls) :
      Reading n (own ++ last :: (body ++ (closing.toList ++ rest)))
        (⟨n, (own ++ [last]).flatMap partOf, some ⟨Text.unlines body, !o.quoted⟩⟩ :: ls)

private theorem logicalLines_idle {raw : List Char} (idle : isIdleLine raw = true) (n : Nat)
    (rest : List (List Char)) :
    logicalLines n none (raw :: rest) = logicalLines (n + 1) none rest := by
  rw [logicalLines, if_pos]
  simpa [isIdleLine] using idle

private theorem logicalLines_starts {raw : List Char} (command : isIdleLine raw = false) (n : Nat)
    (rest : List (List Char)) :
    logicalLines n none (raw :: rest) = logicalLines n (some (n, [])) (raw :: rest) := by
  rw [logicalLines, logicalLines, if_neg, if_neg]
  · rfl
  · simp
  · simpa [isIdleLine] using command

private theorem logicalLines_continued {own : List (List Char)}
    (continued : ∀ raw ∈ own, continues raw = true)
    (n start : Nat) (text : List Char) (rest : List (List Char)) :
    logicalLines n (some (start, text)) (own ++ rest) =
      logicalLines (n + own.length) (some (start, text ++ own.flatMap partOf)) rest := by
  induction own generalizing n text with
  | nil => simp
  | cons raw own ih =>
    have goes : continues raw = true := continued raw List.mem_cons_self
    obtain ⟨before, hbefore⟩ := Option.isSome_iff_exists.mp goes
    have part : partOf raw = before ++ [' '] := by
      rw [partOf, hbefore]
    rw [List.cons_append, logicalLines, if_neg (by simp)]
    simp only [hbefore]
    have next := ih (fun r hr => continued r (List.mem_cons_of_mem _ hr)) (n + 1)
      (text ++ before ++ [' '])
    have text_eq : text ++ before ++ [' '] ++ own.flatMap partOf =
        text ++ (raw :: own).flatMap partOf := by
      rw [List.flatMap_cons, part]
      simp
    rw [text_eq] at next
    rw [List.length_cons, Nat.add_comm own.length, ← Nat.add_assoc]
    exact next

private theorem logicalLines_joined {own : List (List Char)} {last : List Char}
    (starts : StartsCommand (own ++ [last])) (continued : ∀ raw ∈ own, continues raw = true)
    (ends : continues last = false) (n : Nat) (rest : List (List Char)) :
    logicalLines n none (own ++ last :: rest) =
      match opener? none ((own ++ [last]).flatMap partOf) with
      | none =>
          ⟨n, (own ++ [last]).flatMap partOf, none⟩ :: logicalLines (n + own.length + 1) none rest
      | some o =>
        let body := rest.takeWhile fun l => trim l ≠ o.delimiter
        ⟨n, (own ++ [last]).flatMap partOf, some ⟨Text.unlines body, !o.quoted⟩⟩ ::
          logicalLines (n + own.length + body.length + 2) none (rest.drop (body.length + 1)) := by
  have pending : logicalLines n none (own ++ last :: rest) =
      logicalLines n (some (n, [])) (own ++ last :: rest) := by
    cases own with
    | nil => exact logicalLines_starts (starts last rfl) n rest
    | cons raw own => exact logicalLines_starts (starts raw rfl) n (own ++ last :: rest)
  have stops : dropEnd? '\\' (trim last) = none := by
    simpa [continues] using ends
  have part : partOf last = trim last := by
    rw [partOf, stops]
  have text : (own ++ [last]).flatMap partOf = own.flatMap partOf ++ trim last := by
    rw [List.flatMap_append, List.flatMap_singleton, part]
  rw [pending, logicalLines_continued continued, logicalLines, if_neg (by simp)]
  simp only [stops, text, List.nil_append]
  rfl

private theorem logicalLines_cutShort {own : List (List Char)} (nonempty : own ≠ [])
    (starts : StartsCommand own) (continued : ∀ raw ∈ own, continues raw = true) (n : Nat) :
    logicalLines n none own = [⟨n, own.flatMap partOf, none⟩] := by
  obtain ⟨raw, rest, rfl⟩ := List.exists_cons_of_ne_nil nonempty
  have goes := logicalLines_continued continued n n [] []
  rw [List.append_nil] at goes
  rw [logicalLines_starts (starts raw rfl), goes, logicalLines]
  rfl

private theorem Reading.logicalLines_eq {n : Nat} {physical : List (List Char)}
    {ls : List LogicalLine}
    (reading : Reading n physical ls) : logicalLines n none physical = ls := by
  induction reading with
  | done => rw [logicalLines]
  | idle idle _ ih => rw [logicalLines_idle idle, ih]
  | cutShort nonempty starts continued => exact logicalLines_cutShort nonempty starts continued _
  | plain starts continued ends absent _ ih =>
    rw [logicalLines_joined starts continued ends, opener?_eq_none_iff.mpr absent, ih]
  | opened starts continued ends operator within closes unclosed _ ih =>
    rename_i n own body rest last before after closing o ls _
    have inside : body.takeWhile (fun l => trim l ≠ o.delimiter) = body := by
      rw [List.takeWhile_eq_self_iff]
      simpa using within
    have taken : (body ++ (closing.toList ++ rest)).takeWhile (fun l => trim l ≠ o.delimiter) = body ∧
        (body ++ (closing.toList ++ rest)).drop (body.length + 1) = rest := by
      cases closing with
      | none =>
        rw [unclosed rfl, Option.toList_none, List.append_nil, List.append_nil, inside]
        exact ⟨rfl, List.drop_eq_nil_of_le (Nat.le_succ _)⟩
      | some raw =>
        have stops : ¬ trim raw ≠ o.delimiter := not_not.mpr (closes raw rfl)
        rw [List.takeWhile_append_of_pos (by simpa using within)]
        simp [stops]
    rw [logicalLines_joined starts continued ends, opener?_eq_some_iff.mpr ⟨before, after, operator⟩]
    simp only [taken.1, taken.2, ih]

private theorem continued_or_ends (physical : List (List Char)) :
    (∀ raw ∈ physical, continues raw = true) ∨
    ∃ own last rest, physical = own ++ last :: rest ∧ (∀ raw ∈ own, continues raw = true) ∧
      continues last = false := by
  induction physical with
  | nil => simp
  | cons raw physical ih =>
    cases goes : continues raw with
    | false => exact .inr ⟨[], raw, physical, rfl, by simp, goes⟩
    | true =>
      rcases ih with all | ⟨own, last, rest, rfl, continued, ends⟩
      · exact .inl (List.forall_mem_cons.mpr ⟨goes, all⟩)
      · exact .inr ⟨raw :: own, last, rest, rfl, List.forall_mem_cons.mpr ⟨goes, continued⟩, ends⟩

private theorem body_or_rest (delimiter : List Char) (physical : List (List Char)) :
    ∃ body closing rest, physical = body ++ (closing.toList ++ rest) ∧
      (∀ raw ∈ body, trim raw ≠ delimiter) ∧ (∀ raw, closing = some raw → trim raw = delimiter) ∧
      (closing = none → rest = []) := by
  induction physical with
  | nil => exact ⟨[], none, [], by simp⟩
  | cons raw physical ih =>
    by_cases closes : trim raw = delimiter
    · exact ⟨[], some raw, physical, by simp [closes]⟩
    · obtain ⟨body, closing, rest, rfl, within, close, unclosed⟩ := ih
      exact ⟨raw :: body, closing, rest, rfl, List.forall_mem_cons.mpr ⟨closes, within⟩, close,
        unclosed⟩

private theorem exists_reading (n : Nat) (physical : List (List Char)) :
    ∃ ls, Reading n physical ls := by
  induction hn : physical.length using Nat.strong_induction_on generalizing n physical with
  | _ k ih =>
    subst hn
    by_cases nonempty : physical = []
    · exact ⟨[], nonempty ▸ .done⟩
    obtain ⟨raw, rest, hphysical⟩ := List.exists_cons_of_ne_nil nonempty
    cases command : isIdleLine raw with
    | true =>
      obtain ⟨ls, later⟩ := ih rest.length (by simp [hphysical]) (n + 1) rest rfl
      exact ⟨ls, hphysical ▸ .idle command later⟩
    | false =>
      rcases continued_or_ends physical with all | ⟨own, last, tail, rfl, continued, ends⟩
      · have starts : StartsCommand physical := by
          rw [hphysical]
          rintro r ⟨⟩
          exact command
        exact ⟨_, .cutShort nonempty starts all⟩
      · have starts : StartsCommand (own ++ [last]) := by
          intro r hr
          have head : (own ++ last :: tail).head? = some r := by
            cases own <;> exact hr
          rw [hphysical] at head
          obtain rfl := Option.some.inj head
          exact command
        cases opens : opener? none ((own ++ [last]).flatMap partOf) with
        | none =>
          have shorter : tail.length < (own ++ last :: tail).length := by
            simp only [List.length_append, List.length_cons]
            omega
          obtain ⟨ls, later⟩ := ih _ shorter (n + own.length + 1) tail rfl
          exact ⟨_, .plain starts continued ends (opener?_eq_none_iff.mp opens) later⟩
        | some o =>
          obtain ⟨before, after, operator⟩ := opener?_eq_some_iff.mp opens
          obtain ⟨body, closing, beyond, rfl, within, closes, unclosed⟩ :=
            body_or_rest o.delimiter tail
          have shorter : beyond.length <
              (own ++ last :: (body ++ (closing.toList ++ beyond))).length := by
            simp only [List.length_append, List.length_cons]
            omega
          obtain ⟨ls, later⟩ := ih _ shorter (n + own.length + body.length + 2) beyond rfl
          exact ⟨_, .opened starts continued ends operator within closes unclosed later⟩

/-- A script is read in one way. -/
theorem reading_iff {n : Nat} {physical : List (List Char)} {ls : List LogicalLine} :
    Reading n physical ls ↔ ls = logicalLines n none physical := by
  constructor
  · intro reading
    exact reading.logicalLines_eq.symm
  · rintro rfl
    obtain ⟨ls, reading⟩ := exists_reading n physical
    rwa [reading.logicalLines_eq]

/-- The statement of the piece of a line that has the text after a given one: the piece that this
text ends with goes on. -/
structure LogicalLine.StatementAfter (l : LogicalLine) (before : List Char) (s : Statement) :
    Prop where
  mem : s ∈ l.statements
  piece : ∃ earlier start more later, (cut none .bare before).pieces = earlier ++ [start] ∧
    (cut none .bare l.text).pieces = earlier ++ (start ++ more) :: later ∧
    s.index = earlier.length ∧ s.text = String.ofList (commandOf (start ++ more))

theorem LogicalLine.exists_statementAfter {l : LogicalLine} {before after : List Char}
    (stands : OperatorAt none l.text before after) : ∃ s, l.StatementAfter before s ∧ s.HasSigns := by
  obtain ⟨beyond, rfl⟩ := stands.signs
  obtain ⟨earlier, start, more, later, parts, whole⟩ := pieces_append_signs before beyond
  rw [← stands.parts] at whole
  have signs := hasHereOperator_signs start more
  obtain ⟨rest, all⟩ := segments_of_pieces whole (by simp)
  have nonempty : commandOf (start ++ '<' :: '<' :: more) ≠ [] := by
    intro empty
    rw [← hasHereOperator_commandOf, empty] at signs
    cases signs
  refine ⟨_, ⟨mem_statements.mpr ⟨earlier, _, rest, all, nonempty, rfl⟩,
    earlier, start, _, later, parts, whole, rfl, rfl⟩, (hasSigns_read _ _ _ _).mpr signs⟩

theorem Reading.operator {n : Nat} {physical : List (List Char)} {ls : List LogicalLine}
    (reading : Reading n physical ls) {l : LogicalLine} (hl : l ∈ ls) {doc : HereDoc}
    (opens : l.hereDoc = some doc) : ∃ o before after, FirstOperator o l.text before after := by
  induction reading with
  | done => cases hl
  | idle _ _ ih => exact ih hl
  | cutShort _ _ _ =>
    obtain rfl := List.mem_singleton.mp hl
    cases opens
  | plain _ _ _ _ _ ih =>
    rcases List.mem_cons.mp hl with rfl | later
    · cases opens
    · exact ih later
  | opened _ _ _ operator _ _ _ _ ih =>
    rcases List.mem_cons.mp hl with rfl | later
    · exact ⟨_, _, _, operator⟩
    · exact ih later

/-- Here-documents open at operators. Each line of a script has no command, is part of a logical
line, or belongs to the here-document that the first operator of a logical line opens, in whatever
quoting it stands. The body goes to the first statement of the line with two less-than signs in a
row, so it is with the statement of the operator exactly if no statement before that one has such
signs. -/
theorem hereDoc_opens_at_first_operator (script : String) :
    ∃ ls, statements script = ls.flatMap LogicalLine.statements ∧
      (∀ others, Reading 1 (Text.lines script.toList) others ↔ others = ls) ∧
      ∀ l ∈ ls,
        (∀ s ∈ l.statements, ∀ body, s.body = some body ↔
          (∃ doc, l.hereDoc = some doc ∧ body = String.ofList doc.body) ∧ s.HasSigns ∧
            ∀ t ∈ l.statements, t.index < s.index → ¬ t.HasSigns) ∧
        ∀ doc, l.hereDoc = some doc → ∃ o before after s, FirstOperator o l.text before after ∧
          l.StatementAfter before s ∧ (s.body = some (String.ofList doc.body) ↔
            ∀ t ∈ l.statements, t.index < s.index → ¬ t.HasSigns) := by
  refine ⟨logicalLines 1 none (Text.lines script.toList), rfl, fun _ => reading_iff, ?_⟩
  intro l hl
  refine ⟨fun s hs body => LogicalLine.body_eq_some_iff hs body, ?_⟩
  intro doc opens
  obtain ⟨o, before, after, operator⟩ := (reading_iff.mpr rfl).operator hl opens
  obtain ⟨s, statement, signs⟩ := LogicalLine.exists_statementAfter operator.stands
  refine ⟨o, before, after, s, operator, statement, ?_⟩
  rw [LogicalLine.body_eq_some_iff statement.mem]
  constructor
  · rintro ⟨-, -, earlier⟩
    exact earlier
  · intro earlier
    exact ⟨⟨doc, opens, rfl⟩, signs, earlier⟩

/-- An operator between quotes takes the next line, and a here-string before an operator takes the
body of its here-document. -/
theorem hereDoc_of_quoted_operator :
    (statements "echo \x22see <<EOF\x22\necho $TOKEN").map (fun s => (s.text, s.body)) =
      [("echo \x22see <<EOF\x22", some "echo $TOKEN")] ∧
    (statements "cat <<<$NAME; cat <<EOF\npassword=$TOKEN\nEOF").map (fun s => (s.text, s.body)) =
      [("cat <<<$NAME", some "password=$TOKEN"), ("cat <<EOF", none)] := by
  decide +kernel

end SecretFlow.Shell

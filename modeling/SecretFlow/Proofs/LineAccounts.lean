import SecretFlow.Proofs.HereDocuments

set_option autoImplicit false
set_option relaxedAutoImplicit false

/-!
Every line of a script is accounted for. The physical lines are shared out in order: lines without a
command are passed over, a run of lines is one logical line, and the lines of a here-document come
right after the run that opens it. The here-document becomes the body of one statement of its line.
-/

namespace SecretFlow.Shell

open Text (trim)

/-! ### Physical lines -/

/-- The physical lines of a text. A line ends at a line feed, with a carriage return before it if
there is one; text after the last line feed is a line if there is some. -/
inductive PhysicalLines : List Char → List (List Char) → Prop
  | none : PhysicalLines [] []
  | last {line : List Char} (nonempty : line ≠ []) (whole : '\n' ∉ line) : PhysicalLines line [line]
  | ended {line rest : List Char} {ls : List (List Char)} (whole : '\n' ∉ line)
      (bare : line.getLast? ≠ some '\r') (later : PhysicalLines rest ls) :
      PhysicalLines (line ++ '\n' :: rest) (line :: ls)
  | returned {line rest : List Char} {ls : List (List Char)} (whole : '\n' ∉ line)
      (later : PhysicalLines rest ls) : PhysicalLines (line ++ '\r' :: '\n' :: rest) (line :: ls)

private theorem physicalLines_lines (s : List Char) : PhysicalLines s (Text.lines s) := by
  induction hn : s.length using Nat.strong_induction_on generalizing s with
  | _ n ih =>
    subst hn
    by_cases ends : '\n' ∈ s
    · obtain ⟨line, rest, rfl, whole⟩ := List.eq_append_cons_of_mem ends
      have shorter : rest.length < (line ++ '\n' :: rest).length := by
        simp only [List.length_append, List.length_cons]
        omega
      have later := ih _ shorter rest rfl
      rw [Text.lines_append_lineFeed whole]
      rcases List.eq_nil_or_concat line with rfl | ⟨start, last, rfl⟩
      · exact .ended whole (by simp) later
      rw [List.concat_eq_append] at whole ⊢
      by_cases carriage : last = '\r'
      · subst carriage
        have taken : Text.dropEnd? '\r' (start ++ ['\r']) = some start := by
          simp [Text.dropEnd?]
        rw [taken, List.append_assoc]
        exact .returned (fun within => whole (List.mem_append_left _ within)) later
      · have kept : Text.dropEnd? '\r' (start ++ [last]) = none := by
          simp [Text.dropEnd?, carriage]
        rw [kept]
        exact .ended whole (by simpa using carriage) later
    · rw [Text.lines_of_not_mem ends]
      split
      · rename_i empty
        exact empty ▸ .none
      · rename_i nonempty
        exact .last nonempty ends

/-! ### Shares -/

/-- Lines that are joined: the first one has a command, and each but the last goes on with the next.
-/
structure IsRun (own : List (List Char)) : Prop where
  nonempty : own ≠ []
  starts : StartsCommand own
  continued : ∀ raw ∈ own.dropLast, continues raw = true

def goesOn (own : List (List Char)) : Bool :=
  (own.getLast?.map continues).getD false

/-- A share of the physical lines of a script: a line that is passed over, lines that are joined, or
joined lines with the body of the here-document that they open and the line that closes it. -/
inductive Share where
  | passed (raw : List Char)
  | joined (own : List (List Char))
  | opened (own : List (List Char)) (opener : HereDocOpener) (body : List (List Char))
      (closing : Option (List Char))
  deriving DecidableEq, Repr

namespace Share

def lines : Share → List (List Char)
  | passed raw => [raw]
  | joined own => own
  | opened own _ body closing => own ++ (body ++ closing.toList)

/-- What each share must be. Only at the end of the script may lines go on or a here-document be
left open. -/
def Fits (final : Prop) : Share → Prop
  | passed raw => isIdleLine raw = true
  | joined own => IsRun own ∧
      (goesOn own = false ∧ (∀ before after, ¬ OperatorAt none (own.flatMap partOf) before after) ∨
        goesOn own = true ∧ final)
  | opened own opener body closing => IsRun own ∧ goesOn own = false ∧
      (∃ before after, FirstOperator opener (own.flatMap partOf) before after) ∧
      (∀ raw ∈ body, trim raw ≠ opener.delimiter) ∧
      (∀ raw, closing = some raw → trim raw = opener.delimiter) ∧ (closing = none → final)

def logicalLine? (number : Nat) : Share → Option LogicalLine
  | passed _ => none
  | joined own => some ⟨number, own.flatMap partOf, none⟩
  | opened own opener body _ =>
      some ⟨number, own.flatMap partOf, some ⟨Text.unlines body, !opener.quoted⟩⟩

def logicalLines (number : Nat) : List Share → List LogicalLine
  | [] => []
  | share :: shares =>
      (share.logicalLine? number).toList ++ logicalLines (number + share.lines.length) shares

end Share

def AllFit (shares : List Share) : Prop :=
  ∀ earlier share later, shares = earlier ++ share :: later → share.Fits (later = [])

private theorem AllFit.cons {share : Share} {shares : List Share} (first : share.Fits (shares = []))
    (rest : AllFit shares) : AllFit (share :: shares) := by
  intro earlier other later parts
  cases earlier with
  | nil =>
    obtain ⟨rfl, rfl⟩ := List.cons.inj parts
    exact first
  | cons e earlier =>
    obtain ⟨-, rfl⟩ := List.cons.inj parts
    exact rest earlier other later rfl

private theorem allFit_nil : AllFit [] := by
  intro earlier share later parts
  simp at parts

private theorem isRun_append {own : List (List Char)} {last : List Char}
    (starts : StartsCommand (own ++ [last]))
    (continued : ∀ raw ∈ own, continues raw = true) : IsRun (own ++ [last]) where
  nonempty := by simp
  starts := starts
  continued := by rwa [List.dropLast_concat]

private theorem Reading.exists_shares {n : Nat} {physical : List (List Char)}
    {ls : List LogicalLine} (reading : Reading n physical ls) :
    ∃ shares, physical = shares.flatMap Share.lines ∧ AllFit shares ∧
      ls = Share.logicalLines n shares := by
  induction reading with
  | done => exact ⟨[], rfl, allFit_nil, rfl⟩
  | idle idle _ ih =>
    rename_i raw rest ls _
    obtain ⟨shares, rfl, fit, rfl⟩ := ih
    exact ⟨.passed raw :: shares, rfl, fit.cons idle, rfl⟩
  | cutShort nonempty starts continued =>
    rename_i own
    refine ⟨[.joined own], by simp [Share.lines],
      allFit_nil.cons ⟨⟨nonempty, starts, ?_⟩, .inr ⟨?_, rfl⟩⟩, rfl⟩
    · intro raw hraw
      exact continued raw ((List.dropLast_sublist own).subset hraw)
    · rw [goesOn, List.getLast?_eq_some_getLast nonempty]
      exact continued _ (List.getLast_mem nonempty)
  | plain starts continued ends absent _ ih =>
    rename_i n own rest last ls _
    obtain ⟨shares, rfl, fit, rfl⟩ := ih
    refine ⟨.joined (own ++ [last]) :: shares, by simp [Share.lines],
      fit.cons ⟨isRun_append starts continued, .inl ⟨by simpa [goesOn] using ends, absent⟩⟩, ?_⟩
    simp [Share.logicalLines, Share.logicalLine?, Share.lines, Nat.add_assoc]
  | opened starts continued ends operator within closes unclosed later ih =>
    rename_i n own body rest last before after closing o ls
    have share_fits (final : Prop) (open_final : closing = none → final) :
        Share.Fits final (.opened (own ++ [last]) o body closing) :=
      ⟨isRun_append starts continued, by simpa [goesOn] using ends, ⟨before, after, operator⟩, within,
        closes, open_final⟩
    cases closing with
    | none =>
      -- the body runs to the end, so there is no further share
      obtain rfl := unclosed rfl
      obtain rfl : ls = [] := by
        rw [reading_iff.mp later, logicalLines]
      exact ⟨[.opened (own ++ [last]) o body none], by simp [Share.lines],
        allFit_nil.cons (share_fits _ fun _ => rfl), rfl⟩
    | some raw =>
      obtain ⟨shares, rfl, fit, rfl⟩ := ih
      refine ⟨.opened (own ++ [last]) o body (some raw) :: shares, by simp [Share.lines],
        fit.cons (share_fits _ (by simp)), ?_⟩
      have number : n + own.length + body.length + 2 =
          n + (own ++ [last] ++ (body ++ [raw])).length := by
        simp only [List.length_append, List.length_singleton]
        omega
      rw [number]
      rfl

/-! ### Bodies -/

private theorem bodies_statementsFrom (line index : Nat) (doc : Option HereDoc)
    (segments : List (List Char)) :
    (statementsFrom line index doc segments).filterMap Statement.body =
      if segments.any hasHereOperator then (doc.map fun d => String.ofList d.body).toList else [] := by
  induction segments generalizing index doc with
  | nil => rfl
  | cons segment rest ih =>
    rw [statementsFrom_cons_eq, List.filterMap_append, ih, List.any_cons]
    have signs := hasHereOperator_commandOf segment
    by_cases empty : commandOf segment = []
    · have silent : hasHereOperator segment = false := by
        rw [← signs, empty]
        rfl
      simp [empty, silent]
    · cases here : hasHereOperator segment with
      | false => simp [empty, docOf, here, Statement.read]
      | true => cases doc <;> simp [empty, docOf, here, Statement.read]

private theorem LogicalLine.bodies_statements {l : LogicalLine}
    (opens : ∀ doc, l.hereDoc = some doc → ∃ before after, OperatorAt none l.text before after) :
    l.statements.filterMap Statement.body = (l.hereDoc.map fun d => String.ofList d.body).toList := by
  rw [LogicalLine.statements, bodies_statementsFrom]
  cases here : l.hereDoc with
  | none => simp
  | some doc =>
    obtain ⟨before, after, stands⟩ := opens doc here
    obtain ⟨s, statement, signs⟩ := exists_statementAfter stands
    obtain ⟨earlier, segment, later, parts, -, rfl⟩ := mem_statements.mp statement.mem
    have any : (segments l.text).any hasHereOperator = true := by
      rw [parts, List.any_eq_true]
      exact ⟨segment, by simp, (hasSigns_read _ _ _ _).mp signs⟩
    rw [if_pos any]

/-- Every physical line of a script is in one share, in order, and the shares give the logical lines
with their numbers. What a here-document collects is the body of one statement of its line, and no
other statement of the line has one. -/
theorem script_lines_shared_out (script : String) : ∃ physical shares,
    PhysicalLines script.toList physical ∧ physical = shares.flatMap Share.lines ∧ AllFit shares ∧
    logicalLines 1 none (Text.lines script.toList) = Share.logicalLines 1 shares ∧
    statements script = (Share.logicalLines 1 shares).flatMap LogicalLine.statements ∧
    ∀ l ∈ Share.logicalLines 1 shares,
      l.statements.filterMap Statement.body = (l.hereDoc.map fun d => String.ofList d.body).toList := by
  have reading : Reading 1 (Text.lines script.toList)
      (logicalLines 1 none (Text.lines script.toList)) :=
    reading_iff.mpr rfl
  obtain ⟨shares, parts, fit, same⟩ := reading.exists_shares
  refine ⟨_, shares, physicalLines_lines _, parts, fit, same, by rw [statements, same], ?_⟩
  intro l hl
  refine LogicalLine.bodies_statements ?_
  intro doc opens
  obtain ⟨o, before, after, operator⟩ := reading.operator (same ▸ hl) opens
  exact ⟨before, after, operator.stands⟩

end SecretFlow.Shell

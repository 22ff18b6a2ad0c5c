import SecretFlow.Proofs.HereDocuments
import SecretFlow.Proofs.NodeNames

set_option autoImplicit false
set_option relaxedAutoImplicit false

/-!
Places of statements. The statements of a script stand one after the other: by the numbers of their
lines, and on one line by their indices. So no two have the same place, and the id of a statement's
node tells which statement of which script it is.
-/

namespace SecretFlow

namespace Shell

def Statement.place (s : Statement) : Nat × Nat :=
  (s.line, s.index)

/-- A statement stands before another one: on an earlier line, or earlier on the same line. -/
def Statement.Precedes (s t : Statement) : Prop :=
  s.line < t.line ∨ s.line = t.line ∧ s.index < t.index

theorem Statement.Precedes.place_ne {s t : Statement} (precedes : s.Precedes t) :
    s.place ≠ t.place := by
  intro same
  obtain ⟨line, index⟩ := Prod.mk.inj same
  rcases precedes with earlier | ⟨-, earlier⟩ <;> omega

def OrderedFrom (n : Nat) (ls : List LogicalLine) : Prop :=
  (∀ l ∈ ls, n ≤ l.line) ∧ ls.Pairwise fun l k => l.line < k.line

private theorem OrderedFrom.cons {n : Nat} {ls : List LogicalLine} (ordered : OrderedFrom n ls)
    {l : LogicalLine} (earlier : l.line < n) : OrderedFrom l.line (l :: ls) := by
  refine ⟨?_, List.pairwise_cons.mpr ⟨?_, ordered.2⟩⟩
  · rintro k (_ | ⟨_, hk⟩)
    · exact Nat.le_refl _
    · exact Nat.le_of_lt (Nat.lt_of_lt_of_le earlier (ordered.1 k hk))
  · intro k hk
    exact Nat.lt_of_lt_of_le earlier (ordered.1 k hk)

private theorem Reading.orderedFrom {n : Nat} {physical : List (List Char)} {ls : List LogicalLine}
    (reading : Reading n physical ls) : OrderedFrom n ls := by
  induction reading with
  | done => exact ⟨by simp, .nil⟩
  | idle _ _ ih => exact ⟨fun l hl => Nat.le_of_succ_le (ih.1 l hl), ih.2⟩
  | cutShort _ _ _ => exact ⟨by simp, List.pairwise_singleton _ _⟩
  | plain _ _ _ _ _ ih => exact ih.cons (by dsimp only; omega)
  | opened _ _ _ _ _ _ _ _ ih => exact ih.cons (by dsimp only; omega)

private theorem statementsFrom_ordered (line index : Nat) (doc : Option HereDoc)
    (segments : List (List Char)) :
    (statementsFrom line index doc segments).Pairwise Statement.Precedes := by
  induction segments generalizing index doc with
  | nil => simp [statementsFrom]
  | cons segment rest ih =>
    rw [statementsFrom_cons_eq]
    refine List.pairwise_append.mpr ⟨?_, ih _ _, ?_⟩
    · split <;> simp
    · intro s hs t ht
      obtain ⟨earlier, -, -, -, -, rfl⟩ := mem_statementsFrom.mp ht
      split at hs
      · cases hs
      · obtain rfl := List.mem_singleton.mp hs
        right
        refine ⟨rfl, ?_⟩
        show index < index + 1 + earlier.length
        omega

theorem statements_ordered (script : String) :
    (statements script).Pairwise Statement.Precedes := by
  obtain ⟨-, lines⟩ := (reading_iff.mpr rfl : Reading 1 (Text.lines script.toList) _).orderedFrom
  refine List.pairwise_flatMap.mpr ⟨fun l _ => statementsFrom_ordered _ _ _ _, ?_⟩
  refine lines.imp ?_
  intro l k earlier s hs t ht
  obtain ⟨-, -, -, -, -, rfl⟩ := LogicalLine.mem_statements.mp hs
  obtain ⟨-, -, -, -, -, rfl⟩ := LogicalLine.mem_statements.mp ht
  exact .inl earlier

theorem before_eq_of_place {script : String} {before before' after after' : List Statement}
    {s t : Statement} (split : statements script = before ++ s :: after)
    (again : statements script = before' ++ t :: after') (place : s.place = t.place) :
    before = before' ∧ s = t := by
  have once : ((statements script).map Statement.place).Nodup :=
    List.pairwise_map.mpr ((statements_ordered script).imp Statement.Precedes.place_ne)
  have first : ((statements script).map Statement.place)[before.length]? = some s.place := by
    simp [split]
  have second : ((statements script).map Statement.place)[before'.length]? = some t.place := by
    simp [again]
  have length : before.length = before'.length := by
    obtain ⟨bound, -⟩ := List.getElem?_eq_some_iff.mp first
    exact (List.getElem?_inj bound once).mp (by rw [first, second, place])
  obtain ⟨same, rest⟩ := List.append_inj (split.symm.trans again) length
  exact ⟨same, (List.cons.inj rest).1⟩

end Shell

private theorem dot_not_mem_toDigits (n : Nat) : '.' ∉ Nat.toDigits 10 n := by
  intro dot
  have digit := Nat.isDigit_of_mem_toDigits (by decide) (by decide) dot
  revert digit
  decide

private theorem toDigits_injective {n k : Nat} (same : Nat.toDigits 10 n = Nat.toDigits 10 k) :
    n = k := by
  have read := congrArg (Nat.ofDigitChars 10 · 0) same
  simpa only [Nat.ofDigitChars_ten_toDigits] using read

theorem Place.place_eq_of_statementId_eq {p : Place} {script : ScriptRef} {s t : Shell.Statement}
    (same : p.statementId script s = p.statementId script t) : s.place = t.place := by
  have label (u : Shell.Statement) :
      (p.statementId script u).toList = ('c' :: ':' :: p.name.toList ++ ':' :: script.key.toList ++
        [':']) ++ (Nat.toDigits 10 u.line ++ '.' :: Nat.toDigits 10 u.index) := by
    simp [statementId, toString, Nat.repr]
  have parts (u : Shell.Statement) :
      (Nat.toDigits 10 u.line ++ '.' :: Nat.toDigits 10 u.index).splitOn '.' =
        [Nat.toDigits 10 u.line, Nat.toDigits 10 u.index] := by
    rw [List.splitOn_append_cons_self_of_not_mem (dot_not_mem_toDigits _),
      List.splitOn_eq_singleton (dot_not_mem_toDigits _)]
  have texts := congrArg String.toList same
  rw [label, label] at texts
  have digits := congrArg (List.splitOn '.') (List.append_cancel_left texts)
  rw [parts, parts] at digits
  obtain ⟨line, digits⟩ := List.cons.inj digits
  obtain ⟨index, -⟩ := List.cons.inj digits
  exact Prod.ext (toDigits_injective line) (toDigits_injective index)

end SecretFlow

import SecretFlow.Proofs.CutLines

set_option autoImplicit false
set_option relaxedAutoImplicit false

/-!
Where the characters of a text stand: between which quotes, and whether a backslash takes their
meaning. Read from left to right by two marks for the quotes and one for the backslash, this is the
same as the quoting in which lines are cut and references are looked for.
-/

namespace SecretFlow.Shell

/-- Where the next character of a text stands: between single quotes, between double quotes, and
right after a backslash that escapes it. -/
structure Standing where
  single : Bool
  double : Bool
  escaped : Bool
  deriving DecidableEq, Repr

namespace Standing

def plain : Standing :=
  ⟨false, false, false⟩

/-- A backslash outside single quotes escapes the next character. Either kind of quote opens and
closes its own quoting outside the other one. An escaped character does neither. -/
def next (p : Standing) (c : Char) : Standing :=
  if p.escaped then { p with escaped := false }
  else if c = '\\' && !p.single then { p with escaped := true }
  else if c = '\'' && !p.double then { p with single := !p.single }
  else if c = '\x22' && !p.single then { p with double := !p.double }
  else p

/-- Expansions happen where a character is neither escaped nor between single quotes. -/
def IsLive (p : Standing) : Prop :=
  p.escaped = false ∧ p.single = false

end Standing

def standing (before : List Char) : Standing :=
  before.foldl Standing.next .plain

def Quoting.standing : Quoting → Standing
  | bare => ⟨false, false, false⟩
  | single => ⟨true, false, false⟩
  | double => ⟨false, true, false⟩

def Quoting.escaped (q : Quoting) : Standing :=
  { q.standing with escaped := true }

theorem Quoting.next_of_escapes {q : Quoting} {c : Char} (escapes : q.escapes c = true) :
    q.standing.next c = q.escaped := by
  simp only [Quoting.escapes, Bool.and_eq_true, decide_eq_true_eq] at escapes
  obtain ⟨rfl, outside⟩ := escapes
  cases q with
  | bare => rfl
  | single => exact absurd rfl outside
  | double => rfl

theorem Quoting.next_escaped (q : Quoting) (c : Char) : q.escaped.next c = q.standing := by
  cases q <;> rfl

theorem Quoting.next_of_plain {q : Quoting} {c : Char} (plain : q.escapes c = false) :
    q.standing.next c = (q.after c).standing := by
  by_cases backslash : c = '\\'
  · subst backslash
    cases q with
    | single => rfl
    | bare => cases plain
    | double => cases plain
  by_cases quote : c = '\''
  · subst quote
    cases q <;> rfl
  by_cases twice : c = '\x22'
  · subst twice
    cases q <;> rfl
  have same : q.after c = q := by
    unfold after
    split <;> first | rfl | contradiction
  rw [same]
  cases q <;> simp [standing, Standing.next, backslash, quote, twice]

theorem Quoting.isLive_standing (q : Quoting) : q.standing.IsLive ↔ q.expands = true := by
  cases q <;> simp [standing, Standing.IsLive, expands]

theorem Quoting.not_isLive_escaped (q : Quoting) : ¬ q.escaped.IsLive := by
  cases q <;> simp [escaped, Standing.IsLive]

end SecretFlow.Shell

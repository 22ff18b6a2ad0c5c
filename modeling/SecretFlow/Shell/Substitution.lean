import SecretFlow.Shell.Quoting

set_option autoImplicit false
set_option relaxedAutoImplicit false

/-!
Command substitutions, taken out of the statement that holds them.
-/

namespace SecretFlow.Shell

/-- A text with each command substitution replaced by a space, and the bodies in order. -/
structure Substitutions where
  outer : List Char
  inner : List (List Char)
  deriving DecidableEq, Repr

/-- The text up to the parenthesis that closes the current one, `depth` more being open. -/
def parenBody (depth : Nat) : List Char → List Char
  | [] => []
  | c :: rest =>
      if c = '(' then c :: parenBody (depth + 1) rest
      else if c = ')' then
        match depth with
        | 0 => []
        | d + 1 => c :: parenBody d rest
      else c :: parenBody depth rest

/-- Read `$(…)` and backquoted substitutions outside single quotes; one that is not closed runs
to the end of the text. -/
def splitSubstitutions (q : Quoting) : List Char → Substitutions
  | [] => ⟨[], []⟩
  | c :: rest =>
      if q.escapes c then
        let r := splitSubstitutions q (rest.drop 1)
        ⟨c :: (rest.take 1 ++ r.outer), r.inner⟩
      else if c = '$' && q.expands && rest.head? = some '(' then
        let body := parenBody 0 (rest.drop 1)
        let r := splitSubstitutions q (rest.drop (body.length + 2))
        ⟨' ' :: r.outer, body :: r.inner⟩
      else if c = '\x60' && q.expands then
        let body := rest.takeWhile (· ≠ '\x60')
        let r := splitSubstitutions q (rest.drop (body.length + 1))
        ⟨' ' :: r.outer, body :: r.inner⟩
      else
        let r := splitSubstitutions (q.after c) rest
        ⟨c :: r.outer, r.inner⟩
termination_by s => s.length
decreasing_by all_goals (simp only [List.length_cons, List.length_drop]; omega)

end SecretFlow.Shell

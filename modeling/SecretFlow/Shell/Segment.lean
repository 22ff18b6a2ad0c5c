import SecretFlow.Shell.Quoting

set_option autoImplicit false
set_option relaxedAutoImplicit false

/-!
Cutting a line at the operators that part its statements. Pipes stay inside one statement.
-/

namespace SecretFlow.Shell

/-- Whether `c` starts a separator, given the character before it and the text after it; the
number counts the characters of the separator after `c`. Separators are `;`, `;;`, `&&`, `||`
and a single `&` that is not part of a redirection. -/
def separator? (q : Quoting) (before : Option Char) (c : Char) (rest : List Char) : Option Nat :=
  if q ≠ .bare then none
  else if c = ';' then some (if rest.head? = some ';' then 1 else 0)
  else if c = '&' || c = '|' then
    if rest.head? = some c then some 1
    else if c = '&' && before ≠ some '>' && before ≠ some '<' && rest.head? ≠ some '>' then some 0
    else none
  else none

/-- The text up to the first separator, and the texts between the later ones. -/
structure Cut where
  first : List Char
  later : List (List Char)
  deriving DecidableEq, Repr

def cut (before : Option Char) (q : Quoting) : List Char → Cut
  | [] => ⟨[], []⟩
  | c :: rest =>
      if q.escapes c then
        let r := cut (some (rest.headD c)) q (rest.drop 1)
        ⟨c :: (rest.take 1 ++ r.first), r.later⟩
      else
        match separator? q before c rest with
        | some more =>
            let r := cut (some c) q (rest.drop more)
            ⟨[], r.first :: r.later⟩
        | none =>
            let r := cut (some c) (q.after c) rest
            ⟨c :: r.first, r.later⟩
termination_by s => s.length
decreasing_by all_goals (simp only [List.length_cons, List.length_drop]; omega)

/-- All pieces of a cut but an empty last one. -/
def Cut.segments (t : Cut) : List (List Char) :=
  let pieces := t.first :: t.later
  if (pieces.getLastD []).isEmpty then pieces.dropLast else pieces

def segments (text : List Char) : List (List Char) :=
  (cut none .bare text).segments

end SecretFlow.Shell

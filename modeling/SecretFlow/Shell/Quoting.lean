set_option autoImplicit false
set_option relaxedAutoImplicit false

/-!
The quoting state of shell text, read from left to right.
-/

namespace SecretFlow.Shell

/-- Where a character stands: outside quotes, between single or between double quotes. -/
inductive Quoting where
  | bare
  | single
  | double
  deriving DecidableEq, Repr

namespace Quoting

/-- The state after an unescaped character: a quote opens or closes its own kind of quoting and
is plain text inside the other kind. -/
def after : Quoting → Char → Quoting
  | bare, '\'' => single
  | single, '\'' => bare
  | bare, '"' => double
  | double, '"' => bare
  | q, _ => q

/-- A backslash outside single quotes takes the meaning from the next character. -/
def escapes (q : Quoting) (c : Char) : Bool :=
  c = '\\' && q ≠ single

/-- Expansions happen everywhere but in single quotes. -/
def expands (q : Quoting) : Bool :=
  q ≠ single

end Quoting

end SecretFlow.Shell

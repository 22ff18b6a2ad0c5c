import SecretFlow.Text.Word

set_option autoImplicit false
set_option relaxedAutoImplicit false

/-!
Conditions on a position in a text, which look at the characters beside it.
-/

namespace SecretFlow

inductive WordEdge where
  | edge
  | noEdge
  | start
  | finish
  | startHalf
  | finishHalf
  deriving DecidableEq, Repr

/-- Conditions on a position that take no character. A word is one of basic Latin characters or
of characters of any script. -/
inductive Boundary where
  | textStart
  | textEnd
  | lineStart (crlf : Bool)
  | lineEnd (crlf : Bool)
  | word (lies : WordEdge) (latin : Bool)
  deriving DecidableEq, Repr

namespace Boundary

private def isWordChar (latin : Bool) (c : Char) : Bool :=
  if latin then c.isAlphanum || c = '_' else Text.isWord c

/-- Whether the condition holds between the character before a position and the one after it. -/
def holds (before after : Option Char) : Boundary → Bool
  | textStart => before.isNone
  | textEnd => after.isNone
  | lineStart crlf =>
      before.isNone || before = some '\n' || (crlf && before = some '\r' && after ≠ some '\n')
  | lineEnd crlf =>
      after.isNone ||
        (if crlf then after = some '\r' || (after = some '\n' && before ≠ some '\r')
          else after = some '\n')
  | word lies latin =>
      let left := before.any (isWordChar latin)
      let right := after.any (isWordChar latin)
      match lies with
      | .edge => left != right
      | .noEdge => left == right
      | .start => !left && right
      | .finish => left && !right
      | .startHalf => !left
      | .finishHalf => !right

end Boundary

end SecretFlow

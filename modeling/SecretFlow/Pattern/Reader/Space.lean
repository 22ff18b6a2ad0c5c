import SecretFlow.Text.Blank

set_option autoImplicit false
set_option relaxedAutoImplicit false

/-!
Blanks and comments in the text of a pattern, which do not count in verbose mode.
-/

namespace SecretFlow.Pattern

open Text (isBlank)

/-- Drop blanks and comments, from inside a comment or outside of one. A comment goes from a hash
sign to the end of its line. -/
private def dropSpace : Bool → List Char → List Char
  | _, [] => []
  | true, c :: rest => dropSpace (c ≠ '\n') rest
  | false, c :: rest =>
      if isBlank c then dropSpace false rest
      else if c = '#' then dropSpace true rest
      else c :: rest

def skipSpace (verbose : Bool) (s : List Char) : List Char :=
  if verbose then dropSpace false s else s

/-- The next character after blanks and after the first sign of a comment. -/
private def peekInto : Bool → List Char → Option Char
  | _, [] => none
  | comment, c :: rest =>
      if isBlank c then peekInto comment rest
      else if !comment && c = '#' then peekInto true rest
      else some c

/-- The next character. In verbose mode blanks are passed over, and a comment is looked into. -/
def peekSpace (verbose : Bool) (s : List Char) : Option Char :=
  if verbose then peekInto false s else s.head?

end SecretFlow.Pattern

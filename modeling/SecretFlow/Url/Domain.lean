import SecretFlow.Domain.Direction
import SecretFlow.Domain.Label
import SecretFlow.Domain.Punycode

set_option autoImplicit false
set_option relaxedAutoImplicit false

/-!
Domain names in their ASCII form. Labels outside ASCII are written in Punycode, and labels that are
given so have to be what would be written.
-/

namespace SecretFlow.Url

def isForbiddenInDomain (c : Char) : Bool :=
  c.toNat ≤ 0x20 || c.toNat = 0x7F || "%#/:<>?@[\\]^|".toList.contains c

private def isAscii (s : List Char) : Bool :=
  s.all (·.toNat < 0x80)

private def mark : List Char := ['x', 'n', '-', '-']

private def shownLabel? (label : List Char) : Option (List Char) :=
  match mark.isPrefixOf? label with
  | some code =>
      match Domain.Punycode.decode? code with
      | some text => if isAscii text || !Domain.isLabel text then none else some text
      | none => none
  | none => if isAscii label || Domain.isLabel label then some label else none

private def asciiLabel? (label : List Char) : Option (List Char) :=
  if isAscii label then some label else (Domain.Punycode.encode? label).map (mark ++ ·)

def asciiDomain? (domain : List Char) : Option (List Char) := do
  let mapped ← domain.mapM Domain.mapChar?
  let labels := (Text.composed mapped.flatten).splitOn '.'
  let shown ← labels.mapM shownLabel?
  let ascii := List.intercalate ['.'] (← labels.mapM asciiLabel?)
  if shown.any Domain.runsLeft && !shown.all Domain.keepsDirection then none
  else if ascii.any isForbiddenInDomain then none
  else some ascii

end SecretFlow.Url

import SecretFlow.Text.Search

set_option autoImplicit false
set_option relaxedAutoImplicit false

/-!
Checks on user names and similar identifiers. The check is total: every text has a verdict.
-/

namespace SecretFlow

inductive IdentifierVerdict where
  | ok
  | tooShort
  | tooLong
  | empty
  | invalidChars
  deriving DecidableEq, Repr

def IdentifierVerdict.text : IdentifierVerdict → String
  | ok => "ok"
  | tooShort => "too short"
  | tooLong => "too long"
  | empty => "empty"
  | invalidChars => "invalid characters"

structure IdentifierPolicy where
  minLength : Nat := 6
  maxLength : Nat := 64
  deriving DecidableEq, Repr

namespace IdentifierPolicy

/-- Identifiers are made of basic Latin letters, digits, underscores, hyphens and points. -/
def allows (c : Char) : Bool :=
  c.isAlphanum || c = '_' || c = '-' || c = '.'

/-- The first failing check gives the verdict: emptiness, length above the bound, a character
that is not allowed, length below the bound. -/
def check (policy : IdentifierPolicy) (identifier : String) : IdentifierVerdict :=
  let chars := identifier.toList
  if chars.isEmpty then .empty
  else if policy.maxLength < chars.length then .tooLong
  else if !chars.all allows then .invalidChars
  else if chars.length < policy.minLength then .tooShort
  else .ok

end IdentifierPolicy

def isUserNameField (name : String) : Bool :=
  let upper := String.ofList (name.toList.map Char.toUpper)
  ["USER", "USERNAME", "LOGIN"].contains upper ||
    ["_USER", "_USERNAME", "_LOGIN", "_USER_NAME"].any (Text.endsWith upper)

end SecretFlow

set_option autoImplicit false
set_option relaxedAutoImplicit false

/-!
Reasons why a text is not a pattern.
-/

namespace SecretFlow

inductive PatternError where
  | unclosedGroup
  | unopenedGroup
  | groupName
  | lookAround
  | flags
  | nothingToRepeat
  | repetitionCount
  | escape
  | backReference
  | property
  | unclosedClass
  | classItem
  | classRange
  | invalidText
  | tooDeep
  | tooLarge
  deriving DecidableEq, Repr

def PatternError.message : PatternError → String
  | unclosedGroup => "unclosed group"
  | unopenedGroup => "unopened group"
  | groupName => "invalid or repeated capture group name"
  | lookAround => "look-around is not supported"
  | flags => "invalid flags"
  | nothingToRepeat => "repetition operator without an expression"
  | repetitionCount => "invalid repetition count"
  | escape => "invalid escape sequence"
  | backReference => "backreferences are not supported"
  | property => "unknown character property"
  | unclosedClass => "unclosed character class"
  | classItem => "escape sequence not allowed in a character class"
  | classRange => "invalid character class range"
  | invalidText => "pattern can match something that is not text"
  | tooDeep => "pattern is nested too deeply"
  | tooLarge => "pattern is too large when its repetitions are written out"

end SecretFlow

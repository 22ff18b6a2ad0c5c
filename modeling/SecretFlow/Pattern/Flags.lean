set_option autoImplicit false
set_option relaxedAutoImplicit false

/-!
Flags that say how parts of a pattern are meant, and changes of them.
-/

namespace SecretFlow.Pattern

inductive Flag where
  | ignoreCase
  | multiLine
  | dotAll
  | swapGreed
  | unicode
  | crlf
  | verbose
  deriving DecidableEq, Repr

def Flag.ofChar? : Char → Option Flag
  | 'i' => some .ignoreCase
  | 'm' => some .multiLine
  | 's' => some .dotAll
  | 'U' => some .swapGreed
  | 'u' => some .unicode
  | 'R' => some .crlf
  | 'x' => some .verbose
  | _ => none

/-- Flags that are switched on and off. No flag is in both lists. -/
structure FlagChange where
  on : List Flag := []
  off : List Flag := []
  deriving DecidableEq, Repr

def FlagChange.names (c : FlagChange) (f : Flag) : Bool :=
  c.on.contains f || c.off.contains f

def FlagChange.value? (c : FlagChange) (f : Flag) : Option Bool :=
  if c.on.contains f then some true else if c.off.contains f then some false else none

structure Flags where
  ignoreCase : Bool := false
  multiLine : Bool := false
  dotAll : Bool := false
  swapGreed : Bool := false
  unicode : Bool := true
  crlf : Bool := false
  verbose : Bool := false
  deriving DecidableEq, Repr

def Flags.after (f : Flags) (c : FlagChange) : Flags where
  ignoreCase := (c.value? .ignoreCase).getD f.ignoreCase
  multiLine := (c.value? .multiLine).getD f.multiLine
  dotAll := (c.value? .dotAll).getD f.dotAll
  swapGreed := (c.value? .swapGreed).getD f.swapGreed
  unicode := (c.value? .unicode).getD f.unicode
  crlf := (c.value? .crlf).getD f.crlf
  verbose := (c.value? .verbose).getD f.verbose

end SecretFlow.Pattern

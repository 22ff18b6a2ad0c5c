import SecretFlow.Pattern.Boundary
import SecretFlow.Text.CharRanges.Algebra

set_option autoImplicit false
set_option relaxedAutoImplicit false

/-!
Regular patterns over characters, with what can be told from their form: how many bytes a match
takes, and whether each match starts or ends where the text does.
-/

namespace SecretFlow

open Text (CharRanges)

/-- Regular patterns. Characters of a set are told by bytes where characters are bytes, and groups
that capture are numbered. -/
inductive Pattern where
  | empty
  | literal (text : List Char)
  | chars (set : CharRanges) (bytes : Bool)
  | boundary (b : Boundary)
  | repeated (body : Pattern) (least : Nat) (most : Option Nat) (greedy : Bool)
  | capture (index : Nat) (body : Pattern)
  | sequence (parts : List Pattern)
  | choice (branches : List Pattern)

namespace Pattern

def byteLength (n : Nat) : Nat :=
  if n < 0x80 then 1 else if n < 0x800 then 2 else if n < 0x10000 then 3 else 4

private def textLength (text : List Char) : Nat :=
  text.foldl (fun n c => n + byteLength c.toNat) 0

private def addLengths (a b : Option Nat) : Option Nat :=
  a.bind fun x => b.map (x + ·)

mutual

/-- The fewest bytes of a match. There is no such number if nothing matches. -/
def minLength : Pattern → Option Nat
  | empty => some 0
  | literal text => some (textLength text)
  | chars set _ => set.ranges[0]?.map fun r => byteLength r.1
  | boundary _ => some 0
  | repeated body least _ _ => body.minLength.map (least * ·)
  | capture _ body => body.minLength
  | sequence parts => minLengthOfAll parts
  | choice branches => minLengthOfAny branches

def minLengthOfAll : List Pattern → Option Nat
  | [] => some 0
  | p :: rest => addLengths p.minLength (minLengthOfAll rest)

/-- The fewest bytes of a match of one of several patterns, if it is known for each. -/
def minLengthOfAny : List Pattern → Option Nat
  | [] => none
  | [p] => p.minLength
  | p :: rest => p.minLength.bind fun x => (minLengthOfAny rest).map (min x)

end

mutual

/-- The most bytes of a match, unless there is no bound or nothing matches. -/
def maxLength : Pattern → Option Nat
  | empty => some 0
  | literal text => some (textLength text)
  | chars set _ => set.ranges.back?.map fun r => byteLength r.2
  | boundary _ => some 0
  | repeated body _ most _ => most.bind fun m => body.maxLength.map (m * ·)
  | capture _ body => body.maxLength
  | sequence parts => maxLengthOfAll parts
  | choice branches => maxLengthOfAny branches

def maxLengthOfAll : List Pattern → Option Nat
  | [] => some 0
  | p :: rest => addLengths p.maxLength (maxLengthOfAll rest)

/-- The most bytes of a match of one of several patterns, if it is known for each. -/
def maxLengthOfAny : List Pattern → Option Nat
  | [] => none
  | [p] => p.maxLength
  | p :: rest => p.maxLength.bind fun x => (maxLengthOfAny rest).map (max x)

end

def isAlwaysEmpty (p : Pattern) : Bool :=
  p.maxLength = some 0

mutual

def startsWith (b : Boundary) : Pattern → Bool
  | boundary c => c = b
  | repeated body least _ _ => 0 < least && body.startsWith b
  | capture _ body => body.startsWith b
  | sequence parts => someStartsWith b parts
  | choice branches => allStartWith b branches
  | _ => false

/-- Whether patterns that follow each other start with a condition: those that take no byte are
looked through. -/
def someStartsWith (b : Boundary) : List Pattern → Bool
  | [] => false
  | p :: rest => p.startsWith b || (p.isAlwaysEmpty && someStartsWith b rest)

def allStartWith (b : Boundary) : List Pattern → Bool
  | [] => true
  | p :: rest => p.startsWith b && allStartWith b rest

end

mutual

/-- The pattern of the same matches read backwards, as far as conditions at its ends go. -/
def reversed : Pattern → Pattern
  | repeated body least most greedy => repeated body.reversed least most greedy
  | capture index body => capture index body.reversed
  | sequence parts => sequence (reversedAll parts).reverse
  | choice branches => choice (reversedAll branches)
  | p => p

def reversedAll : List Pattern → List Pattern
  | [] => []
  | p :: rest => p.reversed :: reversedAll rest

end

def endsWith (b : Boundary) (p : Pattern) : Bool :=
  p.reversed.startsWith b

mutual

def same : Pattern → Pattern → Bool
  | empty, empty => true
  | literal a, literal b => a = b
  | chars s x, chars t y => s = t && x = y
  | boundary a, boundary b => a = b
  | repeated a l m g, repeated b l' m' g' => l = l' && m = m' && g = g' && same a b
  | capture i a, capture j b => i = j && same a b
  | sequence as, sequence bs => sameAll as bs
  | choice as, choice bs => sameAll as bs
  | _, _ => false

def sameAll : List Pattern → List Pattern → Bool
  | [], [] => true
  | a :: as, b :: bs => same a b && sameAll as bs
  | _, _ => false

end

end Pattern

end SecretFlow

import SecretFlow.Yaml.Error
import SecretFlow.Yaml.Tag
import SecretFlow.Yaml.Value

set_option autoImplicit false
set_option relaxedAutoImplicit false

/-!
What a plain scalar stands for: null, a truth value, a number or a string.
-/

namespace SecretFlow.Yaml.Plain

open SecretFlow.Decimal (Binary64)

private def digitOf? (base : Nat) (c : Char) : Option Nat :=
  let n := c.toNat
  let d? :=
    if '0'.toNat ≤ n && n ≤ '9'.toNat then some (n - '0'.toNat)
    else if 'a'.toNat ≤ n && n ≤ 'z'.toNat then some (n - 'a'.toNat + 10)
    else if 'A'.toNat ≤ n && n ≤ 'Z'.toNat then some (n - 'A'.toNat + 10)
    else none
  d?.bind fun d => if d < base then some d else none

/-- The number written by at least one digit of a base, and nothing else. -/
def natural? (base : Nat) : List Char → Option Nat
  | [] => none
  | cs => cs.foldl (fun acc c => do return (← acc) * base + (← digitOf? base c)) (some 0)

def isPadded (cs : List Char) : Bool :=
  let cs := match cs with
    | '-' :: r => r
    | '+' :: r => r
    | _ => cs
  match cs with
  | '0' :: r => !r.isEmpty && r.all Char.isDigit
  | _ => false

private def baseOf? : Char → Option Nat
  | 'x' => some 16
  | 'o' => some 8
  | 'b' => some 2
  | _ => none

/-- A number without sign in a base that its first two characters name. -/
private def based? : List Char → Option Nat
  | '0' :: c :: r => (baseOf? c).bind fun base => natural? base r
  | _ => none

/-- An integer that has no minus sign; a plus may stand before it. -/
def unsigned? (cs : List Char) : Option Nat :=
  let body := match cs with
    | '+' :: r => r
    | _ => cs
  match based? body with
  | some n => some n
  | none => if isPadded cs then none else natural? 10 body

def negative? : List Char → Option Nat
  | '-' :: r =>
      match based? r with
      | some n => some n
      | none => if isPadded r then none else natural? 10 r
  | _ => none

/-- Whether the text is an integer: one of 64 bits, one that fits only in 128 bits and has no
place in a document, or none. -/
def integer? (cs : List Char) : Except YamlError (Option Int) :=
  match unsigned? cs, negative? cs with
  | some n, _ =>
      if n < Nat.pow 2 64 then .ok (some n)
      else if n < Nat.pow 2 128 then .error .integerRange
      else .ok none
  | none, some n =>
      if n ≤ Nat.pow 2 63 then .ok (some (-(n : Int)))
      else if n ≤ Nat.pow 2 127 then .error .integerRange
      else .ok none
  | none, none => .ok none

/-- The exponent at the end of a numeral: absent, or with at least one digit. -/
private def exponent? : List Char → Option Int
  | [] => some 0
  | e :: r =>
      if e = 'e' || e = 'E' then
        match r with
        | '-' :: ds => (natural? 10 ds).map fun n => -(n : Int)
        | '+' :: ds => (natural? 10 ds).map fun n => (n : Int)
        | ds => (natural? 10 ds).map fun n => (n : Int)
      else none

/-- A decimal numeral without sign: digits with an optional point, at least one digit, and an
optional exponent. -/
private def decimal? (negative : Bool) (cs : List Char) : Option Binary64 :=
  let whole := cs.takeWhile Char.isDigit
  let rest := cs.dropWhile Char.isDigit
  let (fraction, rest) := match rest with
    | '.' :: r => (r.takeWhile Char.isDigit, r.dropWhile Char.isDigit)
    | _ => ([], rest)
  let digits := whole ++ fraction
  match natural? 10 digits, exponent? rest with
  | some n, some e => some (.ofDecimal negative n (e - (fraction.length : Int)))
  | _, _ => none

/-- A real number: infinite, undefined, or a decimal numeral of finite size. -/
def real? (cs : List Char) : Option Binary64 :=
  let body? : Option (List Char) := match cs with
    | '+' :: '+' :: _ => none
    | '+' :: '-' :: _ => none
    | '+' :: r => some r
    | _ => some cs
  match body? with
  | none => none
  | some body =>
      if [".inf", ".Inf", ".INF"].contains (String.ofList body) then some (.infinite false)
      else if ["-.inf", "-.Inf", "-.INF"].contains (String.ofList cs) then some (.infinite true)
      else if [".nan", ".NaN", ".NAN"].contains (String.ofList cs) then some .nan
      else
        let x? := match body with
          | '-' :: r => decimal? true r
          | _ => decimal? false body
        x?.filter Binary64.isFinite

/-- Whether the text is a word for null; an empty text is one only where that is said. -/
def isNullWord (text : String) : Bool :=
  ["null", "Null", "NULL", "~"].contains text

def bool? (text : String) : Option Bool :=
  if ["true", "True", "TRUE"].contains text then some true
  else if ["false", "False", "FALSE"].contains text then some false
  else none

def value (text : String) : Except YamlError Value := do
  let cs := text.toList
  if text.isEmpty || isNullWord text then return .null
  else
    match bool? text with
    | some b => return .bool b
    | none =>
        match ← integer? cs with
        | some n => return .integer n
        | none =>
            match (if isPadded cs then none else real? cs) with
            | some x => return .real x
            | none => return .text text

/-- The value of a scalar without a tag; only a plain one is more than text. -/
def untagged (text : String) (plain : Bool) : Except YamlError Value :=
  if plain then value text else .ok (.text text)

/-- The value of a scalar with a tag: of a core type if the tag says so, a string if it says
anything else, and what the text stands for if it says nothing. -/
def tagged (tag : Tag) (text : String) (plain : Bool) : Except YamlError Value := do
  let cs := text.toList
  match tag with
  | .bool =>
      match bool? text with
      | some b => return .bool b
      | none => .error .badScalar
  | .int =>
      match ← integer? cs with
      | some n => return .integer n
      | none => .error .badScalar
  | .float =>
      match real? cs with
      | some x => return .real x
      | none => .error .badScalar
  | .null => if isNullWord text then return .null else .error .badScalar
  | .foreign => return .text text
  | .named name => return .tagged name (← untagged text plain)
  | .unreadable => untagged text plain

end SecretFlow.Yaml.Plain

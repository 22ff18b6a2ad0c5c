import SecretFlow.Decimal.Binary64
import SecretFlow.Toml.Value

set_option autoImplicit false
set_option relaxedAutoImplicit false

/-!
Strings, numbers and dates of TOML documents. Each reader takes what it reads from the front of a
text and gives the rest.
-/

namespace SecretFlow.Toml

def isSpace (c : Char) : Bool :=
  c = ' ' || c = '\t'

def afterNewline? : List Char → Option (List Char)
  | '\n' :: rest => some rest
  | '\r' :: '\n' :: rest => some rest
  | _ => none

/-- Whether a character may stand in a comment or string as it is; line breaks may not. -/
def isPlainChar (c : Char) : Bool :=
  c = '\t' || (0x20 ≤ c.toNat && c.toNat ≠ 0x7F)

private def hexDigitValue? (c : Char) : Option Nat :=
  if c.isDigit then some (c.toNat - '0'.toNat)
  else if 'a' ≤ c && c ≤ 'f' then some (c.toNat - 'a'.toNat + 10)
  else if 'A' ≤ c && c ≤ 'F' then some (c.toNat - 'A'.toNat + 10)
  else none

private def numeral? (base : Nat) (s : List Char) : Option Nat :=
  s.foldl (fun acc c => do
    let d ← hexDigitValue? c
    if d < base then return (← acc) * base + d else none) (some 0)

private def codePoint? (digits : List Char) : Option Char := do
  let n ← numeral? 16 digits
  if n.isValidChar then some (Char.ofNat n) else none

private def simpleEscape? : Char → Option Char
  | 'b' => some '\x08'
  | 't' => some '\t'
  | 'n' => some '\n'
  | 'f' => some '\x0c'
  | 'r' => some '\r'
  | '\x22' => some '\x22'
  | '\\' => some '\\'
  | _ => none

/-- The rest of a string in double quotes on one line, after the opening quote. -/
def readBasic (acc : List Char) : List Char → Option (String × List Char)
  | '\x22' :: rest => some (String.ofList acc.reverse, rest)
  | '\\' :: 'u' :: a :: b :: c :: d :: rest => do
      readBasic ((← codePoint? [a, b, c, d]) :: acc) rest
  | '\\' :: 'U' :: a :: b :: c :: d :: e :: f :: g :: h :: rest => do
      readBasic ((← codePoint? [a, b, c, d, e, f, g, h]) :: acc) rest
  | '\\' :: c :: rest => do readBasic ((← simpleEscape? c) :: acc) rest
  | c :: rest => if c ≠ '\\' && isPlainChar c then readBasic (c :: acc) rest else none
  | [] => none

/-- The rest of a string in single quotes on one line, after the opening quote. -/
def readLiteral (acc : List Char) : List Char → Option (String × List Char)
  | '\x27' :: rest => some (String.ofList acc.reverse, rest)
  | c :: rest => if isPlainChar c then readLiteral (c :: acc) rest else none
  | [] => none

/-- The end of a string in three quotes, at a quote: three close it, and up to two before them
belong to it; fewer than three are text. -/
private def closing? (quote : Char) (acc s : List Char) : Option (Option (String × List Char)) :=
  let quotes := (s.takeWhile (· = quote)).length
  if quotes < 3 then none
  else if 5 < quotes then some none
  else
    some (some (String.ofList (List.replicate (quotes - 3) quote ++ acc).reverse, s.drop quotes))

/-- Whether nothing but blanks stands before the end of the line. -/
private def endsLine (s : List Char) : Bool :=
  (afterNewline? (s.dropWhile isSpace)).isSome

/-- The rest of a string in three double quotes. After a backslash at the end of a line, blanks and
line breaks are skipped. -/
def readLongBasic (skipping : Bool) (acc : List Char) : List Char → Option (String × List Char)
  | [] => none
  | '\r' :: '\n' :: rest => readLongBasic skipping (if skipping then acc else '\n' :: acc) rest
  | '\\' :: 'u' :: a :: b :: c :: d :: rest => do
      readLongBasic false ((← codePoint? [a, b, c, d]) :: acc) rest
  | '\\' :: 'U' :: a :: b :: c :: d :: e :: f :: g :: h :: rest => do
      readLongBasic false ((← codePoint? [a, b, c, d, e, f, g, h]) :: acc) rest
  | '\\' :: c :: rest =>
      if endsLine (c :: rest) then readLongBasic true acc (c :: rest)
      else do readLongBasic false ((← simpleEscape? c) :: acc) rest
  | c :: rest =>
      if c = '\x22' then
        match closing? '\x22' acc (c :: rest) with
        | some r => r
        | none => readLongBasic false (c :: acc) rest
      else if skipping && (isSpace c || c = '\n') then readLongBasic true acc rest
      else if c ≠ '\\' && (c = '\n' || isPlainChar c) then readLongBasic false (c :: acc) rest
      else none

def readLongLiteral (acc : List Char) : List Char → Option (String × List Char)
  | [] => none
  | '\r' :: '\n' :: rest => readLongLiteral ('\n' :: acc) rest
  | c :: rest =>
      if c = '\x27' then
        match closing? '\x27' acc (c :: rest) with
        | some r => r
        | none => readLongLiteral (c :: acc) rest
      else if c = '\n' || isPlainChar c then readLongLiteral (c :: acc) rest
      else none

/-- A string of any sort. A line break right after three quotes does not count. -/
def readString? (s : List Char) : Option (String × List Char) :=
  match s with
  | '\x22' :: '\x22' :: '\x22' :: rest => readLongBasic false [] ((afterNewline? rest).getD rest)
  | '\x22' :: rest => readBasic [] rest
  | '\x27' :: '\x27' :: '\x27' :: rest => readLongLiteral [] ((afterNewline? rest).getD rest)
  | '\x27' :: rest => readLiteral [] rest
  | _ => none

private def readDigits? (isDigit : Char → Bool) : List Char → Option ((List Char) × List Char)
  | [] => none
  | c :: rest =>
      if !isDigit c then none
      else
        let run := rest.takeWhile fun d => isDigit d || d = '_'
        let fits := !(run.zip (run.drop 1)).any (fun p => p.1 = '_' && p.2 = '_') &&
          run.getLast? ≠ some '_'
        if fits then some ((c :: run).filter (· ≠ '_'), rest.drop run.length) else none

/-- A sign, if there is one, and whether it is a minus. -/
private def readSign : List Char → Bool × List Char
  | '-' :: rest => (true, rest)
  | '+' :: rest => (false, rest)
  | s => (false, s)

/-- A decimal integer without leading zeros: whether it is negative, and its digits. -/
private def readDecimal? (s : List Char) : Option ((Bool × List Char) × List Char) :=
  let (negative, body) := readSign s
  match body with
  | '0' :: rest => some ((negative, ['0']), rest)
  | _ => (readDigits? Char.isDigit body).map fun (digits, rest) => ((negative, digits), rest)

private def isDigitOf (base : Nat) (c : Char) : Bool :=
  match hexDigitValue? c with
  | some d => d < base
  | none => false

private def baseOf? : List Char → Option (Nat × List Char)
  | '0' :: 'x' :: rest => some (16, rest)
  | '0' :: 'o' :: rest => some (8, rest)
  | '0' :: 'b' :: rest => some (2, rest)
  | _ => none

def readInteger? (s : List Char) : Option (Int × List Char) := do
  match baseOf? s with
  | some (base, body) =>
      let (digits, rest) ← readDigits? (isDigitOf base) body
      let n ← numeral? base digits
      if n < Nat.pow 2 63 then some ((n : Int), rest) else none
  | none =>
      let ((negative, digits), rest) ← readDecimal? s
      let n ← numeral? 10 digits
      if negative then (if n ≤ Nat.pow 2 63 then some (-(n : Int), rest) else none)
      else if n < Nat.pow 2 63 then some ((n : Int), rest) else none

private def readExponent? : List Char → Option (Int × List Char)
  | e :: rest =>
      if e = 'e' || e = 'E' then do
        let (negative, body) := readSign rest
        let (digits, rest) ← readDigits? Char.isDigit body
        let n ← numeral? 10 digits
        return (if negative then -(n : Int) else (n : Int), rest)
      else none
  | [] => none

private def readSpecial? (s : List Char) : Option (List Char) :=
  match (readSign s).2 with
  | 'i' :: 'n' :: 'f' :: rest => some rest
  | 'n' :: 'a' :: 'n' :: rest => some rest
  | _ => none

private def readPoint? : List Char → Option (List Char × List Char)
  | '.' :: after => readDigits? Char.isDigit after
  | _ => none

/-- A real number with a fraction, an exponent or both. One above the greatest number is not
read. -/
private def readFraction? (s : List Char) : Option (List Char) := do
  let ((negative, whole), rest) ← readDecimal? s
  let fraction? := readPoint? rest
  let (fraction, rest) := fraction?.getD ([], rest)
  let exponent? := readExponent? rest
  let (exponent, rest) := exponent?.getD (0, rest)
  if fraction?.isNone && exponent?.isNone then none
  else
    let n ← numeral? 10 (whole ++ fraction)
    let x := Decimal.Binary64.ofDecimal negative n (exponent - (fraction.length : Int))
    if x = .infinite false then none else some rest

def readReal? (s : List Char) : Option (List Char) :=
  match readFraction? s with
  | some rest => some rest
  | none => readSpecial? s

/-- A number of exactly so many digits. -/
private def readFixed? (size : Nat) (s : List Char) : Option (Nat × List Char) :=
  let digits := s.take size
  if digits.length = size && digits.all Char.isDigit then
    (numeral? 10 digits).map fun n => (n, s.drop size)
  else none

private def expect? (c : Char) : List Char → Option (List Char)
  | d :: rest => if c = d then some rest else none
  | [] => none

private def daysOf (year month : Nat) : Nat :=
  if month = 2 then
    if year % 4 = 0 && (year % 100 ≠ 0 || year % 400 = 0) then 29 else 28
  else if [4, 6, 9, 11].contains month then 30
  else 31

private def readDay? (s : List Char) : Option (List Char) := do
  let (year, s) ← readFixed? 4 s
  let (month, s) ← readFixed? 2 (← expect? '-' s)
  let (day, s) ← readFixed? 2 (← expect? '-' s)
  if 1 ≤ month && month ≤ 12 && 1 ≤ day && day ≤ daysOf year month then some s else none

private def readTime? (s : List Char) : Option (List Char) := do
  let (hour, s) ← readFixed? 2 s
  let (minute, s) ← readFixed? 2 (← expect? ':' s)
  let (second, s) ← readFixed? 2 (← expect? ':' s)
  if 23 < hour || 59 < minute || 60 < second then none
  else
    match s with
    | '.' :: rest =>
        let rest' := rest.dropWhile Char.isDigit
        if rest'.length = rest.length then none else some rest'
    | _ => some s

private def readOffset? (s : List Char) : Option (List Char) :=
  match s with
  | 'Z' :: rest => some rest
  | 'z' :: rest => some rest
  | c :: rest =>
      if c = '+' || c = '-' then do
        let (hour, s) ← readFixed? 2 rest
        let (minute, s) ← readFixed? 2 (← expect? ':' s)
        if 23 < hour || 59 < minute then none else some s
      else none
  | [] => none

def readDate? (s : List Char) : Option (List Char) :=
  match readDay? s with
  | none => readTime? s
  | some rest =>
      match rest with
      | c :: after =>
          if c = 'T' || c = 't' || c = ' ' then
            match readTime? after with
            | none => some rest
            | some timed => some ((readOffset? timed).getD timed)
          else some rest
      | [] => some []

def readNumber? (s : List Char) : Option (Value × List Char) :=
  let written (rest : List Char) : String := String.ofList (s.take (s.length - rest.length))
  match readDate? s with
  | some rest => some (.date (written rest), rest)
  | none =>
      match readReal? s with
      | some rest => some (.real (written rest), rest)
      | none => (readInteger? s).map fun (n, rest) => (.integer n, rest)

def readScalar? (s : List Char) : Option (Value × List Char) :=
  match s with
  | [] => none
  | 't' :: 'r' :: 'u' :: 'e' :: rest => some (.bool true, rest)
  | 'f' :: 'a' :: 'l' :: 's' :: 'e' :: rest => some (.bool false, rest)
  | c :: _ =>
      if c = '\x22' || c = '\x27' then (readString? s).map fun (t, rest) => (.text t, rest)
      else if c.isDigit || c = '+' || c = '-' || c = 'i' || c = 'n' then readNumber? s
      else none

end SecretFlow.Toml

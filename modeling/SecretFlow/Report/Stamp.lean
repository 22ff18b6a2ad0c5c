import SecretFlow.Report.Sarif

set_option autoImplicit false
set_option relaxedAutoImplicit false

/-!
The id and the time that tell one writing of a report from another.
-/

namespace SecretFlow.RunStamp

/-- A number with at least a number of digits. -/
private def padded (width n : Nat) : String :=
  let digits := Nat.toDigits 10 n
  String.ofList (List.replicate (width - digits.length) '0' ++ digits)

/-- Year, month and day of a number of days after the start of 1970. Years are counted from
March, so that the day that some years have more is the last one. -/
def calendarDate (days : Nat) : Nat × Nat × Nat :=
  let shifted := days + 719468
  let era := shifted / 146097
  let dayOfEra := shifted % 146097
  let yearOfEra := (dayOfEra - dayOfEra / 1460 + dayOfEra / 36524 - dayOfEra / 146096) / 365
  let dayOfYear := dayOfEra - (365 * yearOfEra + yearOfEra / 4 - yearOfEra / 100)
  let shiftedMonth := (5 * dayOfYear + 2) / 153
  let day := dayOfYear - (153 * shiftedMonth + 2) / 5 + 1
  let month := if shiftedMonth < 10 then shiftedMonth + 3 else shiftedMonth - 9
  (yearOfEra + era * 400 + (if month ≤ 2 then 1 else 0), month, day)

/-- A number of seconds after the start of 1970 as a date and a time. -/
def timeText (seconds : Nat) : String :=
  let (year, month, day) := calendarDate (seconds / 86400)
  let rest := seconds % 86400
  s!"{padded 4 year}-{padded 2 month}-{padded 2 day}T{padded 2 (rest / 3600)}:" ++
    s!"{padded 2 (rest / 60 % 60)}:{padded 2 (rest % 60)}Z"

private def hexByte (b : UInt8) : List Char :=
  let digits := Nat.toDigits 16 b.toNat
  List.replicate (2 - digits.length) '0' ++ digits

/-- Set the bits by which an id says that it is random. -/
private def markRandom (bytes : List UInt8) : List UInt8 :=
  (bytes.zipIdx).map fun (b, i) =>
    if i = 6 then (b &&& 0x0F) ||| 0x40
    else if i = 8 then (b &&& 0x3F) ||| 0x80
    else b

def guidText (bytes : List UInt8) : String :=
  let digits := (markRandom bytes).flatMap hexByte
  let group (start size : Nat) := String.ofList ((digits.drop start).take size)
  "-".intercalate [group 0 8, group 8 4, group 12 4, group 16 4, group 20 12]

def ofRandom (bytes : List UInt8) (seconds : Nat) : RunStamp :=
  ⟨guidText bytes, timeText seconds⟩

end SecretFlow.RunStamp

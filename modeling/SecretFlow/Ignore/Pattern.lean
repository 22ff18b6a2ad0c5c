import SecretFlow.Text.Utf8

set_option autoImplicit false
set_option relaxedAutoImplicit false

/-!
Patterns of ignore files. A star stays within a component; two stars between separators go through
any number of them; words in braces are a choice. Paths are compared byte by byte.
-/

namespace SecretFlow.Ignore

open Text.Utf8 (Bytes)

inductive Part where
  | literal (c : Char)
  | anyByte
  | anyName
  | anyStart
  | anyMiddle
  | anyEnd
  | set (negated : Bool) (ranges : List (Char × Char))
  | choice (branches : List (List Part))

/-- The bytes in square brackets that a range of characters stands for. -/
private def byteRanges (range : Char × Char) : List (UInt8 × UInt8) :=
  let singles (bytes : Bytes) := bytes.map fun b => (b, b)
  let low := Text.Utf8.encode (String.singleton range.1)
  let high := Text.Utf8.encode (String.singleton range.2)
  if range.1 = range.2 then singles low
  else
    singles low.dropLast ++ (low.getLast?.toList.zip high.head?.toList) ++ singles high.tail

private def separator : UInt8 := 47

/-- What may be left of a text after a run without separators. -/
private def afterName : Bytes → List Bytes
  | [] => [[]]
  | b :: rest => (b :: rest) :: if b = separator then [] else afterName rest

private def afterSeparators : Bytes → List Bytes
  | [] => []
  | b :: rest => if b = separator then rest :: afterSeparators rest else afterSeparators rest

private def ends : Bytes → List Bytes
  | [] => [[]]
  | b :: rest => (b :: rest) :: ends rest

private def afterLiteral (c : Char) (text : Bytes) : List Bytes :=
  let bytes := Text.Utf8.encode (String.singleton c)
  if bytes.isPrefixOf text then [text.drop bytes.length] else []

private def afterSet (negated : Bool) (ranges : List (Char × Char)) : Bytes → List Bytes
  | [] => []
  | b :: rest =>
      let within := (ranges.flatMap byteRanges).any fun r => r.1 ≤ b && b ≤ r.2
      if within = negated then [] else [rest]

mutual

def Part.rests : Part → Bytes → List Bytes
  | .literal c, text => afterLiteral c text
  | .anyByte, text =>
      match text with
      | b :: rest => if b = separator then [] else [rest]
      | [] => []
  | .anyName, text => afterName text
  | .anyStart, text => text :: afterSeparators text
  | .anyMiddle, text =>
      match text with
      | b :: rest => if b = separator then rest :: afterSeparators rest else []
      | [] => []
  | .anyEnd, text =>
      match text with
      | b :: rest => if b = separator then ends rest else []
      | [] => []
  | .set negated ranges, text => afterSet negated ranges text
  | .choice [], text => [text]
  | .choice (b :: bs), text => restsOfAny (b :: bs) text

/-- What may be left of one of several texts after parts in a row. What is left in more than one way
is kept once. -/
def restsOfAll : List Part → List Bytes → List Bytes
  | [], texts => texts
  | p :: ps, texts => restsOfAll ps (texts.flatMap p.rests).eraseDups

/-- What may be left of a text after one of several rows of parts. -/
def restsOfAny : List (List Part) → Bytes → List Bytes
  | [], _ => []
  | row :: rows, text => restsOfAll row [text] ++ restsOfAny rows text

end

/-- Whether a whole path is meant. Two stars alone mean every path. -/
def fits (parts : List Part) (path : Bytes) : Bool :=
  match parts with
  | [.anyStart] => true
  | _ => (restsOfAll parts [path]).contains []

/-- What is found after an opening square bracket: a set and the rest, a range whose ends are in
the wrong order, or no closing bracket. -/
private inductive Brackets where
  | closed (ranges : List (Char × Char)) (rest : List Char)
  | reversed
  | unclosed

/-- The ranges in square brackets, after the opening one and a sign of negation. An open range ends
with the next character; a closing bracket counts as a character in the first place. -/
private def readRanges (first openRange : Bool) (ranges : List (Char × Char)) :
    List Char → Brackets
  | [] => .unclosed
  | c :: rest =>
      if c = ']' && !first then
        .closed (if openRange then ('-', '-') :: ranges else ranges).reverse rest
      else if c = '-' && !first && !openRange then readRanges false true ranges rest
      else
        match openRange, ranges with
        | true, (low, _) :: others =>
            if c < low then .reversed else readRanges false false ((low, c) :: others) rest
        | _, _ => readRanges false false ((c, c) :: ranges) rest

/-- The part that an opening square bracket starts, and the rest after it. A bracket that is not
closed stands for itself. -/
private def readSet (s : List Char) : Option (Part × List Char) :=
  let (negated, body) := match s with
    | '!' :: rest => (true, rest)
    | '^' :: rest => (true, rest)
    | _ => (false, s)
  match readRanges true false [] body with
  | .closed ranges rest => some (.set negated ranges, rest)
  | .reversed => none
  | .unclosed => some (.literal '[', s)

/-- The part for two stars after other parts, which are given from the last one on, and the rest
after it. -/
private def readStars (inChoice : Bool) (before : Option Char) (done : List Part)
    (s : List Char) : List Part × List Char :=
  let plain := (.anyName :: .anyName :: done, s)
  let follows := before = some '/' || (inChoice && (before = some ',' || before = some '\x7b'))
  match done with
  | [] =>
      match s with
      | [] => ([.anyStart], [])
      | '/' :: rest => ([.anyStart], rest)
      | _ => plain
  | last :: others =>
      let joined (part : Part) : List Part :=
        match last with
        | .anyStart => .anyStart :: others
        | .anyEnd => .anyEnd :: others
        | _ => part :: others
      if !follows then plain
      else
        match s with
        | [] => (joined .anyEnd, [])
        | '/' :: rest => (joined .anyMiddle, rest)
        | c :: _ =>
            if inChoice && (c = ',' || c = '\x7d') then (joined .anyEnd, s) else plain

mutual

/-- Read a row of parts; in a choice it ends before a comma or the closing brace. -/
private def readRow (inChoice : Bool) :
    Nat → Option Char → List Part → List Char → Option (List Part × List Char)
  | 0, _, _, _ => none
  | _, _, done, [] => if inChoice then none else some (done.reverse, [])
  | fuel + 1, before, done, c :: rest =>
      if inChoice && (c = ',' || c = '\x7d') then some (done.reverse, c :: rest)
      else
        match c with
        | '?' => readRow inChoice fuel (some c) (.anyByte :: done) rest
        | '*' =>
            match rest with
            | '*' :: after =>
                let (parts, left) := readStars inChoice before done after
                let last := if left.length < after.length then '/' else '*'
                readRow inChoice fuel (some last) parts left
            | _ => readRow inChoice fuel (some c) (.anyName :: done) rest
        | '[' =>
            match readSet rest with
            | some (part, left) =>
                let last := if left.length < rest.length then ']' else c
                readRow inChoice fuel (some last) (part :: done) left
            | none => none
        | '\x7b' =>
            match readChoice fuel (some c) [] rest with
            | some (part, left) => readRow inChoice fuel (some '\x7d') (part :: done) left
            | none => none
        | '\x7d' => none
        | '\\' =>
            match rest with
            | d :: after => readRow inChoice fuel (some d) (.literal d :: done) after
            | [] => none
        | _ => readRow inChoice fuel (some c) (.literal c :: done) rest

/-- Read the rows of a choice after its opening brace. Empty rows are no choice. -/
private def readChoice :
    Nat → Option Char → List (List Part) → List Char → Option (Part × List Char)
  | 0, _, _, _ => none
  | fuel + 1, before, rows, s =>
      match readRow true fuel before [] s with
      | some (row, ',' :: rest) => readChoice fuel (some ',') (row :: rows) rest
      | some (row, _ :: rest) =>
          some (.choice ((row :: rows).reverse.filter fun row => !row.isEmpty), rest)
      | _ => none

end

def readPattern? (s : List Char) : Option (List Part) :=
  (readRow false (2 * s.length + 2) none [] s).map (·.1)

end SecretFlow.Ignore

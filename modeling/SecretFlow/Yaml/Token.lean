import SecretFlow.Yaml.Scalar
import SecretFlow.Yaml.Tag

set_option autoImplicit false
set_option relaxedAutoImplicit false

/-!
Tokens of a YAML stream. Block structure is made explicit by tokens at changes of indentation,
and a key that turns out to be one by the colon after it gets its token in front afterwards.
-/

namespace SecretFlow.Yaml

open Text.Utf8 (Bytes)

inductive Token where
  | versionDirective (major minor : Nat)
  | tagDirective (handle : String) (expansion : Bytes)
  | documentStart
  | documentEnd
  | streamEnd
  | blockSequenceStart
  | blockMappingStart
  | blockEnd
  | flowSequenceStart
  | flowSequenceEnd
  | flowMappingStart
  | flowMappingEnd
  | blockEntry
  | flowEntry
  | key
  | value
  | alias (name : String)
  | anchor (name : String)
  | tag (handle : String) (suffix : Bytes)
  | scalar (text : String) (plain : Bool)
  deriving DecidableEq, Repr

/-- A place that a key may have started at. A required key stands where only a key can. -/
structure PossibleKey where
  required : Bool
  token : Nat
  index : Nat
  line : Nat
  column : Nat

/-- The state of reading tokens. For each open flow collection, and for the block around them,
there is at most one possible key. -/
structure Tokens where
  cursor : Cursor
  newestFirst : List Token := []
  count : Nat := 0
  flowLevel : Nat := 0
  indent : Int := -1
  indents : List Int := []
  keyAllowed : Bool := true
  keys : List (Option PossibleKey) := [none]

namespace Tokens

def push (s : Tokens) (t : Token) : Tokens :=
  { s with newestFirst := t :: s.newestFirst, count := s.count + 1 }

def insert (s : Tokens) (number : Nat) (t : Token) : Tokens :=
  let after := s.count - number
  { s with
    newestFirst := s.newestFirst.take after ++ t :: s.newestFirst.drop after
    count := s.count + 1 }

def toList (s : Tokens) : List Token :=
  s.newestFirst.reverse

def unroll (column : Int) : Nat → Tokens → Tokens
  | 0, s => s
  | turns + 1, s =>
      if column < s.indent then
        unroll column turns
          { s.push .blockEnd with indent := s.indents.headD (-1), indents := s.indents.drop 1 }
      else s

/-- Outside flow collections, close the blocks that are indented more than a column. -/
def unrollTo (s : Tokens) (column : Int) : Tokens :=
  if s.flowLevel = 0 then unroll column (s.indents.length + 1) s else s

/-- Outside flow collections, open a block at a column that is indented more than the current
one; its token goes to the end or before the token of a given number. -/
def roll (s : Tokens) (column : Int) (number : Option Nat) (t : Token) : Tokens :=
  if s.flowLevel = 0 && s.indent < column then
    let s := { s with indents := s.indent :: s.indents, indent := column }
    match number with
    | some n => s.insert n t
    | none => s.push t
  else s

/-- A key must be on one line and within 1024 bytes of its colon. -/
def PossibleKey.isStale (k : PossibleKey) (c : Cursor) : Bool :=
  k.line < c.line || k.index + 1024 < c.index

private def expire (c : Cursor) : Option PossibleKey → Except YamlError (Option PossibleKey)
  | none => .ok none
  | some k =>
      if PossibleKey.isStale k c then
        if k.required then .error .missingColon else .ok none
      else .ok (some k)

def expireKeys (s : Tokens) : Except YamlError Tokens := do
  return { s with keys := ← s.keys.mapM (expire s.cursor) }

def removeKey (s : Tokens) : Except YamlError Tokens :=
  match s.keys with
  | some k :: rest =>
      if k.required then .error .missingColon else .ok { s with keys := none :: rest }
  | _ => .ok s

def saveKey (s : Tokens) : Except YamlError Tokens :=
  if s.keyAllowed then do
    let required := s.flowLevel = 0 && s.indent = (s.cursor.column : Int)
    let s ← s.removeKey
    let key : PossibleKey :=
      ⟨required, s.count, s.cursor.index, s.cursor.line, s.cursor.column⟩
    return { s with keys := some key :: s.keys.drop 1 }
  else .ok s

/-- Pass over blanks, comments and line breaks; a line may start with a byte order mark. -/
def skipToToken : Nat → Tokens → Tokens
  | 0, s => s
  | turns + 1, s =>
      let c := s.cursor
      let c := if c.column = 0 && c.sees (Char.ofNat 0xFEFF) then c.skip else c
      let tabs := 0 < s.flowLevel || !s.keyAllowed
      let c := c.skipWhile fun x => x = ' ' || (tabs && x = '\t')
      let c := if c.sees '#' then c.skipWhile (!isBreak ·) else c
      if c.seesBreak then
        skipToToken turns
          { s with cursor := c.skipBreak, keyAllowed := s.keyAllowed || s.flowLevel = 0 }
      else { s with cursor := c }

/-- End the blocks before a directive, a document indicator or the end of the stream. -/
def endBlocks (s : Tokens) : Except YamlError Tokens := do
  let s ← (s.unrollTo (-1)).removeKey
  return { s with keyAllowed := false }

private def isUriChar (inBrackets : Bool) (x : Char) : Bool :=
  isHandleChar x || ";/?:@&=+$.%!~*'()".toList.contains x ||
    (inBrackets && (x = ',' || x = '[' || x = ']'))

/-- The byte of a percent escape at the start of a text, and the rest. -/
private def escapedByte? : List Char → Option (UInt8 × List Char)
  | '%' :: a :: b :: rest =>
      match Text.CharRanges.hexDigit? a, Text.CharRanges.hexDigit? b with
      | some x, some y => some ((x * 16 + y).toUInt8, rest)
      | _, _ => none
  | _ => none

/-- How many bytes follow the first byte of a character, by its leading bits alone. -/
private def followers? (b : UInt8) : Option Nat :=
  if b < 0x80 then some 0 else if b < 0xC0 then none else if b < 0xE0 then some 1
  else if b < 0xF0 then some 2 else if b < 0xF8 then some 3 else none

private def readFollowers : Nat → List Char → Option (Bytes × List Char)
  | 0, s => some ([], s)
  | n + 1, s =>
      match escapedByte? s with
      | some (b, rest) =>
          if 0x80 ≤ b && b < 0xC0 then (readFollowers n rest).map fun (bs, rest) => (b :: bs, rest)
          else none
      | none => none

/-- The bytes of a tag. Escapes are decoded one character at a time; only the leading bits of
their bytes are looked at. -/
private def decodeUri : Nat → List Char → Option Bytes
  | 0, _ => some []
  | _ + 1, [] => some []
  | turns + 1, x :: rest =>
      if x = '%' then
        match escapedByte? (x :: rest) with
        | some (b, rest) =>
            match (followers? b).bind fun n => readFollowers n rest with
            | some (bs, rest) => (decodeUri turns rest).map fun more => b :: bs ++ more
            | none => none
        | none => none
      else (decodeUri turns rest).map (Text.Utf8.encode (String.singleton x) ++ ·)

/-- The bytes of a tag or of the expansion of a tag handle. -/
private def readUri (inBrackets : Bool) (c : Cursor) : Except YamlError (Bytes × Cursor) :=
  let raw := c.rest.takeWhile (isUriChar inBrackets)
  match decodeUri (raw.length + 1) raw with
  | some bytes => .ok (bytes, c.skip raw.length)
  | none => .error .badTag

/-- A tag handle: an exclamation mark, or a word between two. -/
private def readHandle (c : Cursor) : List Char × Cursor :=
  let word := (c.rest.drop 1).takeWhile isHandleChar
  let closed := c.sees '!' (word.length + 1)
  let width := word.length + 1 + (if closed then 1 else 0)
  (c.rest.take width, c.skip width)

/-- A tag, from its exclamation mark: verbatim in angle brackets, with a handle, or the single
mark alone. -/
private def readTag (inFlow : Bool) (c : Cursor) : Except YamlError (Token × Cursor) := do
  let (t, after) ← do
    if c.sees '<' 1 then
      let (suffix, after) ← readUri true (c.skip 2)
      if suffix.isEmpty || !after.sees '>' then .error .badTag
      pure (Token.tag "" suffix, after.skip)
    else
      let (handle, after) := readHandle c
      if 1 < handle.length && handle.getLast? = some '!' then
        let (suffix, after) ← readUri false after
        if suffix.isEmpty then .error .badTag
        pure (Token.tag (String.ofList handle) suffix, after)
      else
        let (more, after) ← readUri false after
        let suffix := Text.Utf8.encode (String.ofList (handle.drop 1)) ++ more
        let isAlone := (Tag.untilNull suffix).isEmpty
        pure (if isAlone then .tag "" [33] else .tag "!" suffix, after)
  if after.seesGap || (inFlow && after.sees ',') then return (t, after) else .error .badTag

private def readAnchor (c : Cursor) : Except YamlError (String × Cursor) :=
  let name := (c.rest.drop 1).takeWhile isHandleChar
  let after := c.skip (name.length + 1)
  let ended := after.seesGap || (after.peek?).any (fun x => "?:,]\x7d%@\x60".toList.contains x)
  if name.isEmpty || !ended then .error .badAnchor else .ok (String.ofList name, after)

private def readNumber (c : Cursor) : Except YamlError (Nat × Cursor) :=
  let digits := c.rest.takeWhile Char.isDigit
  if digits.isEmpty || 9 < digits.length then .error .badDirective
  else .ok (digits.foldl (fun n x => n * 10 + (x.toNat - 48)) 0, c.skip digits.length)

private def readVersion (c : Cursor) : Except YamlError (Token × Cursor) := do
  let (major, c) ← readNumber (c.skipWhile isSpace)
  if !c.sees '.' then .error .badDirective
  let (minor, c) ← readNumber c.skip
  return (.versionDirective major minor, c)

private def readTagDirective (c : Cursor) : Except YamlError (Token × Cursor) := do
  let c := c.skipWhile isSpace
  if !c.sees '!' then .error .badDirective
  let (handle, c) := readHandle c
  if (1 < handle.length && handle.getLast? ≠ some '!') || !c.seesSpace then .error .badDirective
  let (expansion, c) ← readUri true (c.skipWhile isSpace)
  if expansion.isEmpty || !c.seesGap then .error .badDirective
  return (.tagDirective (String.ofList handle) expansion, c)

/-- A directive, from its percent sign to the end of its line. -/
private def readDirective (c : Cursor) : Except YamlError (Token × Cursor) := do
  let name := (c.rest.drop 1).takeWhile isHandleChar
  let c := c.skip (name.length + 1)
  if name.isEmpty || !c.seesGap then .error .badDirective
  let (t, c) ← match String.ofList name with
    | "YAML" => readVersion c
    | "TAG" => readTagDirective c
    | _ => .error .badDirective
  let c := c.skipWhile isSpace
  let c := if c.sees '#' then c.skipWhile (!isBreak ·) else c
  if !c.seesLineEnd then .error .badDirective
  return (t, c.skipBreak)

private def isPlainStart (s : Tokens) (x : Char) : Bool :=
  let c := s.cursor
  !(isSpace x || isBreak x || "-?:,[]\x7b\x7d#&*!|>'\x22%@\x60".toList.contains x) ||
    (x = '-' && !c.seesSpace 1) ||
    (s.flowLevel = 0 && (x = '?' || x = ':') && !c.seesGap 1)

private def openFlow (s : Tokens) (t : Token) : Except YamlError Tokens := do
  let s ← s.saveKey
  return { s.push t with
    keys := none :: s.keys
    flowLevel := s.flowLevel + 1
    keyAllowed := true
    cursor := s.cursor.skip }

private def closeFlow (s : Tokens) (t : Token) : Except YamlError Tokens := do
  let s ← s.removeKey
  let keys := if 0 < s.flowLevel then s.keys.drop 1 else s.keys
  return { s.push t with
    keys
    flowLevel := s.flowLevel - 1
    keyAllowed := false
    cursor := s.cursor.skip }

private def readBlockEntry (s : Tokens) : Except YamlError Tokens := do
  if s.flowLevel = 0 && !s.keyAllowed then .error .entryNotAllowed
  let s ← (s.roll s.cursor.column none .blockSequenceStart).removeKey
  return { s.push .blockEntry with keyAllowed := true, cursor := s.cursor.skip }

private def readKey (s : Tokens) : Except YamlError Tokens := do
  if s.flowLevel = 0 && !s.keyAllowed then .error .entryNotAllowed
  let s ← (s.roll s.cursor.column none .blockMappingStart).removeKey
  return { s.push .key with keyAllowed := s.flowLevel = 0, cursor := s.cursor.skip }

private def readValue (s : Tokens) : Except YamlError Tokens :=
  match s.keys with
  | some k :: rest =>
      let s := s.insert k.token .key
      let s := s.roll k.column (some k.token) .blockMappingStart
      .ok { s.push .value with keys := none :: rest, keyAllowed := false, cursor := s.cursor.skip }
  | _ =>
      if s.flowLevel = 0 && !s.keyAllowed then .error .entryNotAllowed
      else
        let s := s.roll s.cursor.column none .blockMappingStart
        .ok { s.push .value with keyAllowed := s.flowLevel = 0, cursor := s.cursor.skip }

private def readScalar (s : Tokens) (plain : Bool)
    (read : Cursor → Except YamlError ScannedScalar) : Except YamlError Tokens := do
  let s ← s.saveKey
  let r ← read s.cursor
  return { s.push (.scalar (String.ofList r.text) plain) with
    keyAllowed := r.endsLine
    cursor := r.cursor }

private def readBlockScalar (s : Tokens) (literal : Bool) : Except YamlError Tokens := do
  let s ← s.removeKey
  let r ← readBlock literal s.indent s.cursor
  return { s.push (.scalar (String.ofList r.text) false) with
    keyAllowed := true
    cursor := r.cursor }

private def readProperty (s : Tokens) (read : Cursor → Except YamlError (Token × Cursor)) :
    Except YamlError Tokens := do
  let s ← s.saveKey
  let (t, cursor) ← read s.cursor
  return { s.push t with keyAllowed := false, cursor }

/-- Read one more token, with those that changes of indentation bring along. -/
def step (s : Tokens) : Except YamlError Tokens := do
  let s := skipToToken (s.cursor.left + 1) s
  let s := (← s.expireKeys).unrollTo s.cursor.column
  let c := s.cursor
  match c.peek? with
  | none => return (← s.endBlocks).push .streamEnd
  | some x =>
      if c.column = 0 && x = '%' then do
        let s ← s.endBlocks
        let (t, cursor) ← readDirective s.cursor
        return { s.push t with cursor }
      else if c.seesDocumentMark then do
        let s ← s.endBlocks
        return { s.push (if x = '-' then .documentStart else .documentEnd) with
          cursor := s.cursor.skip 3 }
      else if x = '[' then openFlow s .flowSequenceStart
      else if x = '\x7b' then openFlow s .flowMappingStart
      else if x = ']' then closeFlow s .flowSequenceEnd
      else if x = '\x7d' then closeFlow s .flowMappingEnd
      else if x = ',' then do
        let s ← s.removeKey
        return { s.push .flowEntry with keyAllowed := true, cursor := s.cursor.skip }
      else if x = '-' && c.seesGap 1 then readBlockEntry s
      else if x = '?' && (0 < s.flowLevel || c.seesGap 1) then readKey s
      else if x = ':' && (0 < s.flowLevel || c.seesGap 1) then readValue s
      else if x = '*' then
        readProperty s fun c => (readAnchor c).map fun (name, after) => (.alias name, after)
      else if x = '&' then
        readProperty s fun c => (readAnchor c).map fun (name, after) => (.anchor name, after)
      else if x = '!' then readProperty s (readTag (0 < s.flowLevel))
      else if x = '|' && s.flowLevel = 0 then readBlockScalar s true
      else if x = '>' && s.flowLevel = 0 then readBlockScalar s false
      else if x = '\'' then readScalar s false (readQuoted true)
      else if x = '\x22' then readScalar s false (readQuoted false)
      else if isPlainStart s x then readScalar s true (readPlain (0 < s.flowLevel) s.indent)
      else .error .unexpectedCharacter

/-- Read tokens to the end of the stream or to the first error. A text may be cut short by an
error behind it; a token that ends with such a text needed to look further and met the error. -/
def readAll (behind : Option YamlError) : Nat → Tokens → List Token × Option YamlError
  | 0, s => (s.toList, some .unexpectedEnd)
  | turns + 1, s =>
      match s.step with
      | .error e => (s.toList, some e)
      | .ok t =>
          match behind with
          | some e => if t.cursor.atEnd then (s.toList, some e) else readAll behind turns t
          | none =>
              if t.newestFirst.head? = some .streamEnd then (t.toList, none)
              else readAll behind turns t

end Tokens

def isPrintable (c : Char) : Bool :=
  let n := c.toNat
  n = 0x09 || n = 0x0A || n = 0x0D || (0x20 ≤ n && n ≤ 0x7E) || n = 0x85 ||
    (0xA0 ≤ n && n ≤ 0xD7FF) || (0xE000 ≤ n && n ≤ 0xFFFD) || 0x10000 ≤ n

/-- Characters are checked in blocks of at most this many bytes. -/
def blockSize : Nat := 16384

/-- The characters in blocks before the one that holds the first character that may not stand in
a stream, if there is one. A character that has no room in a block starts the next one. -/
private def checkedFrom (room : Nat) (block : List Char) (done : List Char) :
    List Char → List Char × Option YamlError
  | [] => ((block ++ done).reverse, none)
  | c :: rest =>
      let size := c.utf8Size
      let fits := size ≤ room
      if isPrintable c then
        if fits then checkedFrom (room - size) (c :: block) done rest
        else checkedFrom (blockSize - size) [c] (block ++ done) rest
      else ((if fits then done else block ++ done).reverse, some .controlCharacter)

/-- The tokens of a text, and the error that ends them if there is one. -/
def tokens (text : String) : List Token × Option YamlError :=
  let (chars, behind) := checkedFrom blockSize [] [] text.toList
  Tokens.readAll behind (chars.length + 2) { cursor := .ofChars chars }

end SecretFlow.Yaml

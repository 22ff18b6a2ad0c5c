import SecretFlow.Text.CharRanges
import SecretFlow.Yaml.Cursor

set_option autoImplicit false
set_option relaxedAutoImplicit false

/-!
The text of scalars: plain, quoted and block style, with line folding and escapes.
-/

namespace SecretFlow.Yaml

structure ScannedScalar where
  text : List Char
  cursor : Cursor
  /-- Whether line breaks came after the last character of a plain scalar. -/
  endsLine : Bool := false

/-- White space that has been passed: blanks on the current line, or a first line break with the
further ones. -/
structure Gap where
  blanks : List Char := []
  first : List Char := []
  more : List Char := []
  broken : Bool := false

/-- The text that a gap inside a scalar stands for: blanks are kept, a single line break becomes
a space, and of several breaks the first is dropped. -/
def Gap.folded (g : Gap) : List Char :=
  if g.broken then
    if g.first.head? = some '\n' then
      if g.more.isEmpty then [' '] else g.more
    else g.first ++ g.more
  else g.blanks

/-- Pass over blanks and line breaks. In plain scalars a tab must not stand where indentation is
expected. -/
def readGap (indent : Option Nat) : Nat → Gap → Cursor → Except YamlError (Gap × Cursor)
  | 0, g, c => .ok (g, c)
  | turns + 1, g, c =>
      match c.peek? with
      | none => .ok (g, c)
      | some x =>
          if isSpace x then
            if g.broken && x = '\t' && indent.any (c.column < ·) then .error .tabIndentation
            else
              let g := if g.broken then g else { g with blanks := g.blanks ++ [x] }
              readGap indent turns g c.skip
          else if isBreak x then
            let g := if g.broken then { g with more := g.more ++ c.breakText }
              else { g with blanks := [], first := c.breakText, broken := true }
            readGap indent turns g c.skipBreak
          else .ok (g, c)

private def isFlowMark (x : Char) : Bool :=
  x = ',' || x = '[' || x = ']' || x = '\x7b' || x = '\x7d'

/-- Characters of a plain scalar up to blank space or an indicator that ends it. -/
def readPlainRun (inFlow : Bool) : Nat → List Char → Cursor →
    Except YamlError (List Char × Cursor)
  | 0, text, c => .ok (text, c)
  | turns + 1, text, c =>
      match c.peek? with
      | none => .ok (text, c)
      | some x =>
          if isSpace x || isBreak x then .ok (text, c)
          else if inFlow && x = ':' && (c.peek? 1).any (fun y => isFlowMark y || y = '?') then
            .error .unexpectedColon
          else if (x = ':' && c.seesGap 1) || (inFlow && isFlowMark x) then .ok (text, c)
          else readPlainRun inFlow turns (x :: text) c.skip

/-- Runs of a plain scalar, joined by what the gaps between them stand for. The text is kept with
the last character first. -/
def readPlainRuns (inFlow : Bool) (indent : Nat) :
    Nat → List Char → Gap → Cursor → Except YamlError ScannedScalar
  | 0, text, gap, c => .ok ⟨text.reverse, c, gap.broken⟩
  | turns + 1, text, gap, c =>
      if c.seesDocumentMark || c.sees '#' then .ok ⟨text.reverse, c, gap.broken⟩
      else do
        let (run, after) ← readPlainRun inFlow (c.left + 1) [] c
        let text := if run.isEmpty then text else run ++ (gap.folded.reverse ++ text)
        let gap := if run.isEmpty then gap else {}
        if !(after.seesSpace || after.seesBreak) then .ok ⟨text.reverse, after, gap.broken⟩
        else do
          let (gap, next) ← readGap (some indent) (after.left + 1) gap after
          if !inFlow && next.column < indent then .ok ⟨text.reverse, next, gap.broken⟩
          else readPlainRuns inFlow indent turns text gap next

/-- A plain scalar, in a block with the given indentation or in a flow collection. -/
def readPlain (inFlow : Bool) (blockIndent : Int) (c : Cursor) : Except YamlError ScannedScalar :=
  readPlainRuns inFlow (blockIndent + 1).toNat (c.left + 1) [] {} c

def simpleEscape? : Char → Option Char
  | '0' => some '\x00'
  | 'a' => some '\x07'
  | 'b' => some '\x08'
  | 't' => some '\t'
  | '\t' => some '\t'
  | 'n' => some '\n'
  | 'v' => some '\x0b'
  | 'f' => some '\x0c'
  | 'r' => some '\r'
  | 'e' => some '\x1b'
  | ' ' => some ' '
  | '\x22' => some '\x22'
  | '/' => some '/'
  | '\\' => some '\\'
  | 'N' => some (Char.ofNat 0x85)
  | '_' => some (Char.ofNat 0xA0)
  | 'L' => some (Char.ofNat 0x2028)
  | 'P' => some (Char.ofNat 0x2029)
  | _ => none

private def hexEscapeWidth? : Char → Option Nat
  | 'x' => some 2
  | 'u' => some 4
  | 'U' => some 8
  | _ => none

/-- The character of the escape at a backslash, and the number of characters that spell it. -/
def readEscape (c : Cursor) : Except YamlError (Char × Nat) :=
  match c.peek? 1 with
  | none => .error .badEscape
  | some x =>
      match simpleEscape? x, hexEscapeWidth? x with
      | some y, _ => .ok (y, 2)
      | none, some width =>
          let digits := (c.rest.drop 2).take width
          let code := Text.CharRanges.hexValue digits
          if digits.length = width && digits.all (fun d => (Text.CharRanges.hexDigit? d).isSome) &&
              code.isValidChar then
            .ok (Char.ofNat code, width + 2)
          else .error .badEscape
      | none, none => .error .badEscape

/-- Characters of a quoted scalar up to blank space or the closing quote. The flag tells that an
escaped line break was passed. -/
def readQuotedRun (single : Bool) : Nat → List Char → Cursor →
    Except YamlError (List Char × Bool × Cursor)
  | 0, text, c => .ok (text, false, c)
  | turns + 1, text, c =>
      match c.peek? with
      | none => .ok (text, false, c)
      | some x =>
          if isSpace x || isBreak x then .ok (text, false, c)
          else if single then
            if x = '\'' then
              if c.sees '\'' 1 then readQuotedRun single turns ('\'' :: text) (c.skip 2)
              else .ok (text, false, c)
            else readQuotedRun single turns (x :: text) c.skip
          else if x = '\x22' then .ok (text, false, c)
          else if x = '\\' then
            if c.seesBreak 1 then .ok (text, true, c.skip.skipBreak)
            else do
              let (y, width) ← readEscape c
              readQuotedRun single turns (y :: text) (c.skip width)
          else readQuotedRun single turns (x :: text) c.skip

def readQuotedRuns (single : Bool) : Nat → List Char → Cursor → Except YamlError ScannedScalar
  | 0, _, _ => .error .unexpectedEnd
  | turns + 1, text, c =>
      if c.seesDocumentMark then .error .documentIndicator
      else if c.atEnd then .error .unexpectedEnd
      else do
        let (text, escaped, c) ← readQuotedRun single (c.left + 1) text c
        if c.sees (if single then '\'' else '\x22') then .ok ⟨text.reverse, c.skip, false⟩
        else do
          let (gap, next) ← readGap none (c.left + 1) { broken := escaped } c
          readQuotedRuns single turns (gap.folded.reverse ++ text) next

def readQuoted (single : Bool) (c : Cursor) : Except YamlError ScannedScalar :=
  readQuotedRuns single (c.left + 1) [] c.skip

/-- What happens to line breaks at the end of a block scalar. -/
inductive Chomping where
  | strip
  | clip
  | keep
  deriving DecidableEq, Repr

private def chompingOf? : Option Char → Option Chomping
  | some '+' => some .keep
  | some '-' => some .strip
  | _ => none

private def increment? (c : Cursor) : Except YamlError (Option Nat) :=
  match c.peek? with
  | some x =>
      if x = '0' then .error .badBlockHeader
      else if x.isDigit then .ok (some (x.toNat - 48))
      else .ok none
  | none => .ok none

/-- The header of a block scalar after its indicator: chomping and indentation in any order. -/
def readBlockHeader (c : Cursor) : Except YamlError (Chomping × Option Nat × Cursor) := do
  match chompingOf? c.peek? with
  | some chomping =>
      let c := c.skip
      match ← increment? c with
      | some n => return (chomping, some n, c.skip)
      | none => return (chomping, none, c)
  | none =>
      match ← increment? c with
      | some n =>
          let c := c.skip
          match chompingOf? c.peek? with
          | some chomping => return (chomping, some n, c.skip)
          | none => return (.clip, some n, c)
      | none => return (.clip, none, c)

/-- Pass over indentation and empty lines. With no indentation known, the deepest column seen is
kept. -/
def readBlockBreaks (indent : Option Nat) : Nat → Nat → List Char → Cursor →
    Except YamlError (List Char × Nat × Cursor)
  | 0, deepest, breaks, c => .ok (breaks, deepest, c)
  | turns + 1, deepest, breaks, c =>
      let spaces := (c.rest.takeWhile (· = ' ')).length
      let c := c.skip (match indent with
        | some n => min spaces (n - c.column)
        | none => spaces)
      let deepest := max deepest c.column
      if (indent.all (c.column < ·)) && c.sees '\t' then .error .tabIndentation
      else if c.seesBreak then
        readBlockBreaks indent turns deepest (breaks ++ c.breakText) c.skipBreak
      else .ok (breaks, deepest, c)

/-- The text of a block scalar, with the last character first: what has been read, the line break
after it and the empty lines after that. -/
structure BlockText where
  text : List Char := []
  leading : List Char := []
  trailing : List Char := []
  leadingBlank : Bool := false

def readBlockLines (literal : Bool) (indent : Nat) : Nat → BlockText → Cursor →
    Except YamlError (BlockText × Cursor)
  | 0, b, c => .ok (b, c)
  | turns + 1, b, c =>
      if c.column = indent && !c.atEnd then do
        let blank := c.seesSpace
        let joined :=
          if !literal && b.leading.head? = some '\n' && !b.leadingBlank && !blank then
            if b.trailing.isEmpty then ' ' :: b.text else b.text
          else b.leading.reverse ++ b.text
        let text := b.trailing.reverse ++ joined
        let line := c.rest.takeWhile (!isBreak ·)
        let after := c.skip line.length
        let leading := after.breakText
        let (trailing, _, next) ←
          readBlockBreaks (some indent) (after.left + 1) 0 [] after.skipBreak
        readBlockLines literal indent turns ⟨line.reverse ++ text, leading, trailing, blank⟩ next
      else .ok (b, c)

/-- A block scalar, from its indicator, in a block with the given indentation. -/
def readBlock (literal : Bool) (blockIndent : Int) (c : Cursor) :
    Except YamlError ScannedScalar := do
  let (chomping, increment, c) ← readBlockHeader c.skip
  let c := c.skipWhile isSpace
  let c := if c.sees '#' then c.skipWhile (!isBreak ·) else c
  if !c.seesLineEnd then .error .badBlockHeader
  let c := c.skipBreak
  let known := increment.map fun n => (max blockIndent 0).toNat + n
  let (trailing, deepest, c) ← readBlockBreaks known (c.left + 1) 0 [] c
  let indent := known.getD (max (max deepest (blockIndent + 1).toNat) 1)
  let (b, c) ← readBlockLines literal indent (c.left + 1) { trailing } c
  let text := match chomping with
    | .strip => b.text
    | .clip => b.leading.reverse ++ b.text
    | .keep => b.trailing.reverse ++ (b.leading.reverse ++ b.text)
  return ⟨text.reverse, c, false⟩

end SecretFlow.Yaml

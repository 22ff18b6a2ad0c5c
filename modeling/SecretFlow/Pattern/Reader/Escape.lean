import SecretFlow.Pattern.Error
import SecretFlow.Pattern.Reader.Space
import SecretFlow.Pattern.Written

set_option autoImplicit false
set_option relaxedAutoImplicit false

/-!
What follows a backslash in a pattern.
-/

namespace SecretFlow.Pattern

inductive Escape where
  | literal (l : Literal)
  | short (kind : ShortClass) (negated : Bool)
  | property (name : PropertyName) (negated : Bool)
  | assertion (a : Assertion)
  deriving DecidableEq, Repr

/-- What is read from the text of a pattern, with the rest of the text. -/
abbrev Read (α : Type) := Except PatternError (α × List Char)

/-- Whether a character stands for itself after a backslash: any basic Latin one that is no letter
or digit, but for the angle brackets, which stand for boundaries. -/
def isEscapable (c : Char) : Bool :=
  c.toNat < 0x80 && !c.isAlphanum && c ≠ '<' && c ≠ '>'

private def charOfHex (digits : List Char) (byte : Bool) (rest : List Char) : Read Literal :=
  let n := Text.CharRanges.hexValue digits
  if n.isValidChar then .ok (⟨Char.ofNat n, byte⟩, rest) else .error .escape

private def isHex (c : Char) : Bool :=
  (Text.CharRanges.hexDigit? c).isSome

private def readDigits (verbose byte : Bool) : Nat → List Char → List Char → Read Literal
  | 0, digits, s => charOfHex digits.reverse byte s
  | count + 1, digits, s =>
      match s with
      | [] => .error .escape
      | c :: rest =>
          if isHex c then readDigits verbose byte count (c :: digits) (skipSpace verbose rest)
          else .error .escape

/-- The characters up to a closing brace, blanks and comments left out in verbose mode. -/
private def readBraced (verbose : Bool) : Nat → List Char → List Char → Read (List Char)
  | 0, _, _ => .error .escape
  | turns + 1, read, s =>
      match skipSpace verbose s with
      | [] => .error .escape
      | '\x7d' :: rest => .ok (read.reverse, rest)
      | c :: rest => readBraced verbose turns (c :: read) rest

/-- The code point after `\x`, `\u` or `\U`: a fixed number of digits, or any in braces. -/
private def readHex (verbose : Bool) (width : Nat) (s : List Char) : Read Literal :=
  match skipSpace verbose s with
  | '\x7b' :: rest =>
      match readBraced verbose (rest.length + 1) [] rest with
      | .ok (digits, after) =>
          if digits.isEmpty || !digits.all isHex then .error .escape
          else charOfHex digits false after
      | .error e => .error e
  | s => readDigits verbose (width = 2) width [] s

private def partAt? (mark : List Char) : List Char → Option (List Char × List Char)
  | [] => none
  | c :: rest =>
      if mark.isPrefixOf (c :: rest) then some ([], (c :: rest).drop mark.length)
      else (partAt? mark rest).map fun (before, after) => (c :: before, after)

def PropertyName.ofText (s : List Char) : PropertyName :=
  match (partAt? ['!', '='] s).orElse fun _ => (partAt? [':'] s).orElse fun _ => partAt? ['='] s with
  | some (name, value) => .withValue name value
  | none => .alone s

/-- The name of a property: one character, or any in braces. -/
private def readProperty (verbose : Bool) (s : List Char) : Read PropertyName :=
  match skipSpace verbose s with
  | [] => .error .escape
  | '\x7b' :: rest =>
      (readBraced verbose (rest.length + 1) [] rest).map fun (name, after) => (.ofText name, after)
  | c :: rest => if c = '\\' then .error .property else .ok (.alone [c], rest)

private def isEdgeNameChar (c : Char) : Bool :=
  c.isAlpha || c = '-'

private def readEdgeName (verbose : Bool) : Nat → List Char → List Char → List Char × List Char
  | 0, read, s => (read.reverse, s)
  | turns + 1, read, s =>
      match s with
      | [] => (read.reverse, [])
      | c :: rest =>
          if isEdgeNameChar c then readEdgeName verbose turns (c :: read) (skipSpace verbose rest)
          else (read.reverse, c :: rest)

private def edge? (name : String) : Option Assertion :=
  match name with
  | "start" => some .wordStart
  | "end" => some .wordEnd
  | "start-half" => some .wordStartHalf
  | "end-half" => some .wordEndHalf
  | _ => none

/-- What follows `\b`: nothing more, or the kind of word boundary in braces. Braces that do not
start with a name are left for a repetition. -/
private def readEdge (verbose : Bool) (s : List Char) : Read Assertion :=
  match s with
  | '\x7b' :: rest =>
      let body := skipSpace verbose rest
      match body with
      | [] => .error .repetitionCount
      | c :: _ =>
          if isEdgeNameChar c then
            let (name, after) := readEdgeName verbose body.length [] body
            match after, edge? (String.ofList name) with
            | '\x7d' :: after, some edge => .ok (edge, after)
            | _, _ => .error .escape
          else .ok (.wordEdge, s)
  | _ => .ok (.wordEdge, s)

def readEscape (verbose : Bool) (s : List Char) : Read Escape :=
  match s with
  | [] => .error .escape
  | c :: rest =>
      let literal (d : Char) : Read Escape := .ok (.literal ⟨d, false⟩, rest)
      let assertion (a : Assertion) : Read Escape := .ok (.assertion a, rest)
      let short (kind : ShortClass) (negated : Bool) : Read Escape := .ok (.short kind negated, rest)
      match c with
      | 'x' => (readHex verbose 2 rest).map fun (l, after) => (.literal l, after)
      | 'u' => (readHex verbose 4 rest).map fun (l, after) => (.literal l, after)
      | 'U' => (readHex verbose 8 rest).map fun (l, after) => (.literal l, after)
      | 'p' => (readProperty verbose rest).map fun (p, after) => (.property p false, after)
      | 'P' => (readProperty verbose rest).map fun (p, after) => (.property p true, after)
      | 'd' => short .digit false
      | 's' => short .space false
      | 'w' => short .word false
      | 'D' => short .digit true
      | 'S' => short .space true
      | 'W' => short .word true
      | 'a' => literal '\x07'
      | 'f' => literal '\x0c'
      | 't' => literal '\t'
      | 'n' => literal '\n'
      | 'r' => literal '\r'
      | 'v' => literal '\x0b'
      | 'A' => assertion .textStart
      | 'z' => assertion .textEnd
      | 'b' => (readEdge verbose rest).map fun (a, after) => (.assertion a, after)
      | 'B' => assertion .noWordEdge
      | '<' => assertion .wordStart
      | '>' => assertion .wordEnd
      | _ =>
          if c.isDigit then .error .backReference
          else if isEscapable c then literal c
          else .error .escape

end SecretFlow.Pattern

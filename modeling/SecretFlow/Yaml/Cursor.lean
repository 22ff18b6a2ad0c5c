import SecretFlow.Yaml.Error

set_option autoImplicit false
set_option relaxedAutoImplicit false

/-!
A place in a YAML text: what is left of it, and the position reached.
-/

namespace SecretFlow.Yaml

/-- Line breaks: carriage return, line feed, next line, line and paragraph separator. -/
def isBreak (c : Char) : Bool :=
  c = '\r' || c = '\n' || c.toNat = 0x85 || c.toNat = 0x2028 || c.toNat = 0x2029

def isSpace (c : Char) : Bool :=
  c = ' ' || c = '\t'

def isHandleChar (c : Char) : Bool :=
  c.isAlphanum || c = '_' || c = '-'

/-- A place in a text of a given number of bytes; the index counts bytes too. -/
structure Cursor where
  rest : List Char
  size : Nat
  index : Nat := 0
  line : Nat := 0
  column : Nat := 0
  deriving DecidableEq, Repr

def byteCount (text : List Char) : Nat :=
  text.foldl (fun n c => n + c.utf8Size) 0

namespace Cursor

def ofChars (text : List Char) : Cursor :=
  { rest := text, size := byteCount text }

def left (c : Cursor) : Nat :=
  c.size - c.index

def peek? (c : Cursor) (ahead : Nat := 0) : Option Char :=
  c.rest[ahead]?

def sees (c : Cursor) (x : Char) (ahead : Nat := 0) : Bool :=
  c.rest[ahead]? = some x

def atEnd (c : Cursor) : Bool :=
  c.rest.isEmpty

def seesSpace (c : Cursor) (ahead : Nat := 0) : Bool :=
  (c.peek? ahead).any isSpace

def seesBreak (c : Cursor) (ahead : Nat := 0) : Bool :=
  (c.peek? ahead).any isBreak

def seesLineEnd (c : Cursor) (ahead : Nat := 0) : Bool :=
  (c.peek? ahead).all isBreak

/-- Whether a space, a tab, a line break or the end comes next. -/
def seesGap (c : Cursor) (ahead : Nat := 0) : Bool :=
  (c.peek? ahead).all fun x => isSpace x || isBreak x

def skip (c : Cursor) (n : Nat := 1) : Cursor :=
  { c with
    rest := c.rest.drop n
    index := c.index + byteCount (c.rest.take n)
    column := c.column + n }

/-- Pass over a line break; a carriage return and a line feed together are one. -/
def skipBreak (c : Cursor) : Cursor :=
  match c.rest with
  | '\r' :: '\n' :: rest => { c with rest, index := c.index + 2, line := c.line + 1, column := 0 }
  | x :: rest =>
      if isBreak x then
        { c with rest, index := c.index + x.utf8Size, line := c.line + 1, column := 0 }
      else c
  | [] => c

/-- The text that a line break at the cursor contributes: separators are kept as they are, all
others become a line feed. -/
def breakText (c : Cursor) : List Char :=
  match c.rest with
  | x :: _ =>
      if x.toNat = 0x2028 || x.toNat = 0x2029 then [x]
      else if isBreak x then ['\n'] else []
  | [] => []

/-- Pass over characters while a condition holds; none of them may be a line break. -/
def skipWhile (c : Cursor) (p : Char → Bool) : Cursor :=
  c.skip (c.rest.takeWhile p).length

/-- Whether a document indicator stands at the cursor, at the start of a line. -/
def seesDocumentMark (c : Cursor) : Bool :=
  c.column = 0 &&
    ((c.sees '-' && c.sees '-' 1 && c.sees '-' 2) || (c.sees '.' && c.sees '.' 1 && c.sees '.' 2)) &&
      c.seesGap 3

end Cursor

end SecretFlow.Yaml

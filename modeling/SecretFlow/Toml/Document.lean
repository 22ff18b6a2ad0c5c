import SecretFlow.Toml.Scalar

set_option autoImplicit false
set_option relaxedAutoImplicit false

/-!
TOML documents. A document is read line by line: headers say which table the entries after them
belong to.
-/

namespace SecretFlow.Toml

/-- How deep arrays and tables in braces may stand in each other. -/
def maxNesting : Nat := 79

def maxKeyParts : Nat := 79

private def skipSpaces (s : List Char) : List Char :=
  s.dropWhile isSpace

private def skipComment : List Char → List Char
  | '#' :: rest => rest.dropWhile isPlainChar
  | s => s

/-- The text after the end of a line: blanks, a comment, and a line break or the end of all. -/
private def endLine? (s : List Char) : Option (List Char) :=
  match skipComment (skipSpaces s) with
  | [] => some []
  | rest => afterNewline? rest

private def skipFiller : Nat → List Char → List Char
  | 0, s => s
  | turns + 1, s =>
      match skipComment (skipSpaces s) with
      | [] => []
      | rest =>
          match afterNewline? rest with
          | some more => skipFiller turns more
          | none => rest

private def isBareKeyChar (c : Char) : Bool :=
  c.isAlphanum || c = '_' || c = '-'

private def readKeyPart? (s : List Char) : Option (String × List Char) :=
  match s with
  | '\x22' :: rest => readBasic [] rest
  | '\x27' :: rest => readLiteral [] rest
  | _ =>
      let name := s.takeWhile isBareKeyChar
      if name.isEmpty then none else some (String.ofList name, s.drop name.length)

private def readKeyParts : Nat → List Char → Option (List String × List Char)
  | 0, _ => none
  | turns + 1, s => do
      let (part, rest) ← readKeyPart? (skipSpaces s)
      match skipSpaces rest with
      | '.' :: more =>
          let (parts, rest) ← readKeyParts turns more
          return (part :: parts, rest)
      | rest => return ([part], rest)

/-- A dotted key: the tables to go through, and the last part. -/
private def readKey? (s : List Char) : Option ((List String × String) × List Char) := do
  let (parts, rest) ← readKeyParts (s.length + 1) s
  if maxKeyParts < parts.length then none
  else
    match parts.reverse with
    | last :: before => return ((before.reverse, last), rest)
    | [] => none

private abbrev ValueReader := List Char → Option (Value × List Char)

private def readItems (read : ValueReader) :
    Nat → List Value → List Char → Option (Value × List Char)
  | 0, _, _ => none
  | turns + 1, items, s =>
      match skipFiller (s.length + 1) s with
      | ']' :: rest => some (.array false items.reverse, rest)
      | s => do
          let (item, rest) ← read s
          match skipFiller (rest.length + 1) rest with
          | ',' :: more => readItems read turns (item :: items) more
          | ']' :: more => some (.array false (item :: items).reverse, more)
          | _ => none

private def readEntry? (read : ValueReader) (s : List Char) :
    Option ((List String × String × Value) × List Char) := do
  let ((path, key), rest) ← readKey? s
  match rest with
  | '=' :: rest =>
      let (v, rest) ← read (skipSpaces rest)
      return ((path, key, v), rest)
  | _ => none

/-- The entries of a table in braces after the first one, or after the opening brace. -/
private def readPairs (read : ValueReader) :
    Nat → Entries → List Char → Option (Value × List Char)
  | 0, _, _ => none
  | turns + 1, entries, s => do
      let ((path, key, v), rest) ← readEntry? read s
      let entries ← entries.addDotted? path key v
      match skipSpaces rest with
      | ',' :: more => readPairs read turns entries more
      | '\x7d' :: more => some (.table .inline entries, more)
      | _ => none

/-- A value whose arrays and tables may be nested to a depth. -/
private def readValue : Nat → ValueReader
  | depth, s =>
      match s with
      | '[' :: rest =>
          match depth with
          | 0 => none
          | depth + 1 => readItems (readValue depth) (rest.length + 1) [] rest
      | '\x7b' :: rest =>
          match depth with
          | 0 => none
          | depth + 1 =>
              match skipSpaces rest with
              | '\x7d' :: more => some (.table .inline [], more)
              | _ => readPairs (readValue depth) (rest.length + 1) [] rest
      | _ => readScalar? s

/-- A document that is being read: what is finished, and the table that entries are added to, with
the path of its header. -/
private structure Reader where
  finished : Entries := []
  current : Entries := []
  path : List String := []
  key : Option String := none
  inArray : Bool := false

namespace Reader

private def finish? (r : Reader) : Option Entries :=
  match r.key with
  | none => some r.current
  | some key =>
      let place (_ : Bool) (es : Entries) : Option (Entries × Unit) :=
        if r.inArray then
          match es.get? key with
          | none => some (es.put key (.array true [.table .header r.current]), ())
          | some (.array true items) =>
              some (es.put key (.array true (items ++ [.table .header r.current])), ())
          | some _ => none
        else some (es.put key (.table .header r.current), ())
      (r.finished.change false place false r.path).map (·.1)

/-- Start the table of a header. A table that was only implied by other headers is taken up. -/
private def openTable? (r : Reader) (path : List String) (key : String) : Option Reader := do
  let finished ← r.finish?
  let take (_ : Bool) (es : Entries) : Option (Entries × Entries) :=
    match es.get? key with
    | none => some (es, [])
    | some (.table .implied inner) => some (es.erase key, inner)
    | some _ => none
  let (finished, current) ← finished.change false take false path
  return { finished, current, path, key := some key }

private def openElement? (r : Reader) (path : List String) (key : String) : Option Reader := do
  let finished ← r.finish?
  let check (_ : Bool) (es : Entries) : Option (Entries × Unit) :=
    match es.get? key with
    | none => some (es, ())
    | some (.array true _) => some (es, ())
    | some _ => none
  let (finished, _) ← finished.change false check false path
  return { finished, path, key := some key, inArray := true }

private def line? (r : Reader) (s : List Char) : Option (Reader × List Char) := do
  match s with
  | '[' :: '[' :: rest =>
      let ((path, key), rest) ← readKey? rest
      match rest with
      | ']' :: ']' :: rest => return (← r.openElement? path key, ← endLine? rest)
      | _ => none
  | '[' :: rest =>
      let ((path, key), rest) ← readKey? rest
      match rest with
      | ']' :: rest => return (← r.openTable? path key, ← endLine? rest)
      | _ => none
  | '#' :: _ => return (r, ← endLine? s)
  | '\n' :: _ => return (r, ← endLine? s)
  | '\r' :: _ => return (r, ← endLine? s)
  | _ =>
      let ((path, key, v), rest) ← readEntry? (readValue maxNesting) s
      let current ← r.current.addDotted? path key v
      return ({ r with current }, ← endLine? rest)

private def lines : Nat → Reader → List Char → Option Entries
  | 0, _, _ => none
  | turns + 1, r, s =>
      match skipSpaces s with
      | [] => r.finish?
      | s => do
          let (r, rest) ← r.line? s
          lines turns r rest

end Reader

/-- The entries of a document; none if it is not valid. A byte order mark at the front does not
count. -/
def readDocument? (text : String) : Option Entries :=
  let s := match text.toList with
    | '\ufeff' :: rest => rest
    | s => s
  Reader.lines (s.length + 1) {} s

end SecretFlow.Toml

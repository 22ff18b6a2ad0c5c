import SecretFlow.Ignore.Pattern
import SecretFlow.Text.Blank

set_option autoImplicit false
set_option relaxedAutoImplicit false

/-!
Rules of ignore files. Each line is a rule; the last one that speaks of a path decides.
-/

namespace SecretFlow.Ignore

open Text.Utf8 (Bytes)

/-- A rule: what it speaks of, whether it keeps rather than ignores, and whether it holds for
folders alone. -/
structure Rule where
  pattern : List Part
  keeps : Bool
  foldersOnly : Bool

private def endsWith (s ending : List Char) : Bool :=
  ending.reverse.isPrefixOf s.reverse

/-- The text of a rule without blanks at its end, unless the last one is escaped. -/
private def ruleText (line : List Char) : List Char :=
  if endsWith line ['\\', ' '] then line else Text.trimEnd line

/-- A pattern without a separator speaks of names in all folders below; one that ends in two stars
speaks of what is in a folder and not of the folder. -/
private def wholePattern (anchored : Bool) (s : List Char) : List Char :=
  let isDeep := ['*', '*', '/'].isPrefixOf s || s = ['*', '*']
  let placed := if anchored || s.contains '/' || isDeep then s else '*' :: '*' :: '/' :: s
  if endsWith placed ['/', '*', '*'] then placed ++ ['/', '*'] else placed

private def dropFolderMark (s : List Char) : Option (List Char) :=
  (Text.dropEnd? '/' s).map fun body => (Text.dropEnd? '\\' body).getD body

/-- The sign that a rule keeps, the sign that it starts at the folder of its file, and the rest. -/
private def splitMarks : List Char → Bool × Bool × List Char
  | '\\' :: '!' :: rest => (false, false, '!' :: rest)
  | '\\' :: '#' :: rest => (false, false, '#' :: rest)
  | '!' :: '/' :: rest => (true, true, rest)
  | '!' :: rest => (true, false, rest)
  | '/' :: rest => (false, true, rest)
  | s => (false, false, s)

/-- The rule of a line. Comments, empty lines and patterns that cannot be read give none. -/
def Rule.ofLine? (line : List Char) : Option Rule :=
  if line.head? = some '#' then none
  else
    let text := ruleText line
    if text.isEmpty then none
    else
      let (keeps, anchored, body) := splitMarks text
      let bare := (dropFolderMark body).getD body
      match readPattern? (wholePattern anchored bare) with
      | some pattern => some ⟨pattern, keeps, (dropFolderMark body).isSome⟩
      | none => none

/-- Lines as texts, up to the first one that is none. A carriage return before a line break is not
part of its line. -/
private def textLines : List Bytes → List (List Char)
  | [] => []
  | line :: rest =>
      if Text.Utf8.isValid line then
        let chars := Text.Utf8.decode line
        (if rest.isEmpty then chars else (Text.dropEnd? '\r' chars).getD chars) :: textLines rest
      else []

def linesOf (bytes : Bytes) : List (List Char) :=
  textLines (bytes.splitOn 10)

private def dropMarks : List (List Char) → List (List Char)
  | [] => []
  | line :: rest => line.dropWhile (· = '\ufeff') :: rest

def rulesOf (bytes : Bytes) : List Rule :=
  (dropMarks (linesOf bytes)).filterMap Rule.ofLine?

/-- What the last rule that speaks of a path says: that it is ignored or kept. -/
def ignored? (rules : List Rule) (path : Bytes) (isFolder : Bool) : Option Bool :=
  (rules.reverse.find? fun r => (isFolder || !r.foldersOnly) && fits r.pattern path).map fun r =>
    !r.keeps

end SecretFlow.Ignore

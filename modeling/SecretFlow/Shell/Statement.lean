import SecretFlow.Text.Word
import SecretFlow.Shell.LogicalLine
import SecretFlow.Shell.Segment

set_option autoImplicit false
set_option relaxedAutoImplicit false

/-!
Statements of a script, with the variables they mention, the variable they assign and the
script they invoke.
-/

namespace SecretFlow.Shell

open Text (isBlank isWord trim trimStart afterBlanks?)

structure Assignment where
  name : String
  exported : Bool
  deriving DecidableEq, Repr

/-- Whether a script is read into the current shell or run on its own. -/
inductive InvocationMode where
  | source
  | execute
  deriving DecidableEq, Repr

structure Invocation where
  target : String
  mode : InvocationMode
  deriving DecidableEq, Repr

/-- A statement, identified by the number of its line and its place on that line. -/
structure Statement where
  line : Nat
  index : Nat
  text : String
  body : Option String
  variableNames : List String
  assignment : Option Assignment
  invocation : Option Invocation
  deriving DecidableEq, Repr

def afterWord? (word : String) (s : List Char) : Option (List Char) :=
  List.isPrefixOf? word.toList s

def leadingKeywords : List String :=
  ["then", "do", "else", "elif", "if", "while", "until", "!", "\x7b", "(", "time"]

/-- The text after a leading keyword; a keyword of letters ends at a blank or at the end. -/
def afterKeyword? (keyword : String) (s : List Char) : Option (List Char) :=
  (afterWord? keyword s).bind fun rest =>
    if !keyword.toList.all Char.isAlpha || rest.isEmpty || (rest.head?.map isBlank).getD false then
      some (trimStart rest)
    else none

/-- Strip leading keywords until none is left. At each turn the rest is shorter, so as many turns
as there are characters suffice. -/
def stripKeywordsFor : Nat → List Char → List Char
  | 0, s => s
  | turns + 1, s =>
      match leadingKeywords.findSome? fun k => afterKeyword? k s with
      | some rest => stripKeywordsFor turns rest
      | none => s

def stripKeywords (s : List Char) : List Char :=
  stripKeywordsFor s.length s

/-- The letters of option words such as `-e -x`, each followed by a blank, and the rest. -/
def optionWords (s : List Char) : List Char × List Char :=
  match s with
  | '-' :: rest =>
      let letters := rest.takeWhile Char.isAlpha
      if letters.isEmpty then ([], s)
      else
        let beyond := rest.drop letters.length
        let blanks := (beyond.takeWhile isBlank).length
        if blanks = 0 then ([], s)
        else
          let r := optionWords (beyond.drop blanks)
          (letters ++ r.1, r.2)
  | _ => ([], s)
termination_by s.length
decreasing_by
  simp only [List.length_cons, List.length_drop]
  omega

private def dropQuote : List Char → List Char
  | c :: rest => if c = '\x22' || c = '\'' then rest else c :: rest
  | [] => []

def isWordPart (c : Char) : Bool :=
  !(isBlank c || c = ';' || c = '|' || c = '&' || c = '\x22' || c = '\'')

def declarationWords : List String :=
  ["export", "local", "readonly", "declare", "typeset"]

private def assigned? (s : List Char) : Option String :=
  let name := leadingName s
  if !name.isEmpty && (s.drop name.length).head? = some '=' then some (String.ofList name)
  else none

private def declared? (word : String) (s : List Char) : Option Assignment := do
  let rest ← (← afterWord? word s) |> afterBlanks?
  let name ← assigned? (optionWords rest).2
  return ⟨name, word = "export"⟩

/-- The assignment at the head of a statement, behind a declaration word with options or bare. -/
def Assignment.read? (s : List Char) : Option Assignment :=
  (declarationWords.findSome? fun w => declared? w s).or ((assigned? s).map fun n => ⟨n, false⟩)

private def sourced? (s : List Char) : Option String := do
  let rest ← ((afterWord? "source" s).bind afterBlanks?).or ((afterWord? "." s).bind afterBlanks?)
  let target := (dropQuote rest).takeWhile isWordPart
  if target.isEmpty then none else some (String.ofList target)

private def afterExec (s : List Char) : List Char :=
  ((afterWord? "exec" s).bind afterBlanks?).getD s

def shellNames : List String :=
  ["sh", "bash", "ash", "dash", "zsh", "ksh"]

def lastComponent (s : List Char) : List Char :=
  (s.reverse.takeWhile (· ≠ '/')).reverse

def namesShell (argument : String) : Bool :=
  shellNames.contains (String.ofList (lastComponent argument.toList))

def namesScript (argument : String) : Bool :=
  let s := argument.toList
  s.head? ≠ some '-' && !s.any isBlank &&
    (".sh".toList.isSuffixOf s || ".bash".toList.isSuffixOf s)

/-- A shell run on a script: the letters of its options and the script. -/
private def shellRun? (s : List Char) : Option (List Char × String) :=
  let command := (afterExec s).takeWhile (!isBlank ·)
  if namesShell (String.ofList command) then do
    let rest ← afterBlanks? ((afterExec s).drop command.length)
    let (letters, operands) := optionWords rest
    let target := (dropQuote operands).takeWhile isWordPart
    if target.isEmpty || target.head? = some '-' then none
    else some (letters, String.ofList target)
  else none

private def isScriptChar (c : Char) : Bool :=
  isWord c || c = '.' || c = '/' || c = '$' || c = '\x7b' || c = '\x7d' || c = '-'

private def endsScript (taken rest : List Char) : Bool :=
  ("hs.".toList.isPrefixOf taken || "hsab.".toList.isPrefixOf taken) &&
    !(rest.head?.map isWord).getD false

/-- The longest script name made of the reversed characters already taken and what follows. -/
private def scriptName? (taken : List Char) : List Char → Option String
  | [] => if endsScript taken [] then some (String.ofList taken.reverse) else none
  | c :: rest =>
      let here := if endsScript taken (c :: rest) then some (String.ofList taken.reverse) else none
      if isScriptChar c then (scriptName? (c :: taken) rest).or here else here

/-- The script that a statement invokes: one that is sourced, one given to a shell, or one run
directly. A shell with the option `c` runs its argument as text and invokes no script. -/
def Invocation.read? (s : List Char) : Option Invocation :=
  match sourced? s with
  | some target => some ⟨target, .source⟩
  | none =>
      match shellRun? s with
      | some (letters, target) => if letters.contains 'c' then none else some ⟨target, .execute⟩
      | none => (scriptName? [] (dropQuote (afterExec s))).map fun target => ⟨target, .execute⟩

def hasHereOperator : List Char → Bool
  | '<' :: '<' :: _ => true
  | _ :: rest => hasHereOperator rest
  | [] => false

/-- The statement of a text, with a here-document's variables after its own. -/
def Statement.read (line index : Nat) (text : List Char) (doc : Option HereDoc) : Statement :=
  let own := liveReferences .bare text
  let added := match doc with
    | some d => if d.expands then allReferences d.body else []
    | none => []
  { line, index
    text := String.ofList text
    body := doc.map fun d => String.ofList d.body
    variableNames := ((own ++ added).map String.ofList).eraseDups
    assignment := Assignment.read? text
    invocation := Invocation.read? text }

/-- Statements of the segments of a line, the first of which has the given index. A segment that
is empty without its keywords makes no statement but counts; the here-document goes to the first
statement with its operator. -/
def statementsFrom (line index : Nat) (doc : Option HereDoc) : List (List Char) → List Statement
  | [] => []
  | segment :: rest =>
      let text := stripKeywords (trim segment)
      if text.isEmpty then statementsFrom line (index + 1) doc rest
      else if hasHereOperator text then
        Statement.read line index text doc :: statementsFrom line (index + 1) none rest
      else
        Statement.read line index text none :: statementsFrom line (index + 1) doc rest

def LogicalLine.statements (l : LogicalLine) : List Statement :=
  statementsFrom l.line 0 l.hereDoc (segments l.text)

def statements (script : String) : List Statement :=
  (logicalLines 1 none (Text.lines script.toList)).flatMap LogicalLine.statements

end SecretFlow.Shell

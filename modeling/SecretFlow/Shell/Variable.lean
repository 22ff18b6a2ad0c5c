import SecretFlow.Shell.Quoting

set_option autoImplicit false
set_option relaxedAutoImplicit false

/-!
Variable references: `$NAME` and `${NAME…}` in shell text, `$(NAME)` in container arguments.
-/

namespace SecretFlow.Shell

def isNameStart (c : Char) : Bool :=
  c = '_' || c.isAlpha

def isNameChar (c : Char) : Bool :=
  c = '_' || c.isAlphanum

/-- The longest name at the start of a text; empty if there is none. -/
def leadingName : List Char → List Char
  | [] => []
  | c :: rest => if isNameStart c then c :: rest.takeWhile isNameChar else []

def isName (s : List Char) : Bool :=
  !s.isEmpty && leadingName s == s

/-- The name referred to by what follows a dollar sign, and the number of characters that
spell it, an opening brace included. -/
def reference? (s : List Char) : Option (List Char × Nat) :=
  let brace := if s.head? = some '{' then 1 else 0
  let name := leadingName (s.drop brace)
  if name.isEmpty then none else some (name, brace + name.length)

/-- Names referred to in text under shell quoting, in order and with repeats. -/
def liveReferences (q : Quoting) : List Char → List (List Char)
  | [] => []
  | c :: rest =>
      if q.escapes c then liveReferences q (rest.drop 1)
      else if c = '$' && q.expands then
        match reference? rest with
        | some (name, width) => name :: liveReferences q (rest.drop width)
        | none => liveReferences q rest
      else liveReferences (q.after c) rest
termination_by s => s.length
decreasing_by all_goals (simp only [List.length_cons, List.length_drop]; omega)

/-- Names referred to in text in which quotes and backslashes are ordinary characters. -/
def allReferences : List Char → List (List Char)
  | [] => []
  | c :: rest =>
      if c = '$' then
        match reference? rest with
        | some (name, width) => name :: allReferences (rest.drop width)
        | none => allReferences rest
      else allReferences rest
termination_by s => s.length
decreasing_by all_goals (simp only [List.length_cons, List.length_drop]; omega)

/-- Variables mentioned by a text, each once, in order of first appearance. -/
def variableNames (text : String) (honourQuotes : Bool) : List String :=
  let found := if honourQuotes then liveReferences .bare text.toList else allReferences text.toList
  (found.map String.ofList).eraseDups

/-- The name of a parenthesised reference after its dollar sign, and the number of characters
that spell it with both parentheses. -/
def parenthesised? : List Char → Option (List Char × Nat)
  | '(' :: rest =>
      let name := leadingName rest
      if !name.isEmpty && (rest.drop name.length).head? = some ')' then
        some (name, name.length + 2)
      else none
  | _ => none

/-- Names in `$(NAME)` references, in order and with repeats; a dollar sign right before the
reference makes it plain text. -/
def argumentReferences (afterDollar : Bool) : List Char → List (List Char)
  | [] => []
  | c :: rest =>
      if c = '$' then
        match parenthesised? rest with
        | some (name, width) =>
            if afterDollar then argumentReferences false (rest.drop width)
            else name :: argumentReferences false (rest.drop width)
        | none => argumentReferences true rest
      else argumentReferences false rest
termination_by s => s.length
decreasing_by all_goals (simp only [List.length_cons, List.length_drop]; omega)

/-- Variables that a container argument refers to, each once, in order of first appearance. -/
def argumentVariables (text : String) : List String :=
  ((argumentReferences false text.toList).map String.ofList).eraseDups

end SecretFlow.Shell

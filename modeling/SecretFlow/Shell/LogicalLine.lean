import SecretFlow.Text.Blank
import SecretFlow.Shell.Variable

set_option autoImplicit false
set_option relaxedAutoImplicit false

/-!
Logical lines: continuation lines are joined, blank lines and comments dropped, and the body of
a here-document is kept with the line that opens it.
-/

namespace SecretFlow.Shell

open Text (trim afterBlanks? dropEnd? unlines)

structure HereDocOpener where
  delimiter : List Char
  quoted : Bool
  deriving DecidableEq, Repr

/-- The collected body of a here-document; variables in it expand unless its delimiter was
quoted. -/
structure HereDoc where
  body : List Char
  expands : Bool
  deriving DecidableEq, Repr

structure LogicalLine where
  line : Nat
  text : List Char
  hereDoc : Option HereDoc
  deriving DecidableEq, Repr

/-- The number of characters that a quote at the start of a text takes. -/
def quoteWidth (s : List Char) : Nat :=
  match s.head? with
  | some c => if c = '\x22' || c = '\'' then 1 else 0
  | none => 0

/-- A here-document operator with its delimiter word at the start of a text, and the number of
characters it takes. -/
def openerAt? : List Char → Option (HereDocOpener × Nat)
  | '<' :: '<' :: rest =>
      let dash := if rest.head? = some '-' then 1 else 0
      let blanks := ((rest.drop dash).takeWhile Text.isBlank).length
      let before := quoteWidth (rest.drop (dash + blanks))
      let name := leadingName (rest.drop (dash + blanks + before))
      let afterName := quoteWidth (rest.drop (dash + blanks + before + name.length))
      if name.isEmpty then none
      else
        some (⟨name, before + afterName ≠ 0⟩,
          2 + dash + blanks + before + name.length + afterName)
  | _ => none

/-- The first here-document operator of a text that no `<` stands before. -/
def opener? (before : Option Char) : List Char → Option HereDocOpener
  | [] => none
  | c :: rest =>
      match openerAt? (c :: rest) with
      | some (opener, width) =>
          if before = some '<' then opener? none (rest.drop (width - 1)) else some opener
      | none => opener? (some c) rest
termination_by s => s.length
decreasing_by all_goals (simp only [List.length_cons, List.length_drop]; omega)

/-- Read physical lines, the first of which has the given number, after a pending continuation. -/
def logicalLines (number : Nat) (pending : Option (Nat × List Char)) :
    List (List Char) → List LogicalLine
  | [] =>
      match pending with
      | none => []
      | some (start, text) => [⟨start, text, none⟩]
  | raw :: rest =>
      let trimmed := trim raw
      if pending.isNone && (trimmed.isEmpty || trimmed.head? = some '#') then
        logicalLines (number + 1) none rest
      else
        let start := (pending.map Prod.fst).getD number
        let earlier := (pending.map Prod.snd).getD []
        match dropEnd? '\\' trimmed with
        | some continued =>
            logicalLines (number + 1) (some (start, earlier ++ continued ++ [' '])) rest
        | none =>
            let text := earlier ++ trimmed
            match opener? none text with
            | none => ⟨start, text, none⟩ :: logicalLines (number + 1) none rest
            | some opener =>
                let body := rest.takeWhile fun l => trim l ≠ opener.delimiter
                ⟨start, text, some ⟨unlines body, !opener.quoted⟩⟩ ::
                  logicalLines (number + body.length + 2) none (rest.drop (body.length + 1))
termination_by ls => ls.length
decreasing_by all_goals (simp only [List.length_cons, List.length_drop]; omega)

end SecretFlow.Shell

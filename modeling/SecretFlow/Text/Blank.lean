set_option autoImplicit false
set_option relaxedAutoImplicit false

/-!
Blank characters, trimming and physical lines, over lists of characters.
-/

namespace SecretFlow.Text

def isBlank (c : Char) : Bool :=
  let n := c.toNat
  (9 ≤ n && n ≤ 13) || n == 0x20 || n == 0x85 || n == 0xA0 || n == 0x1680 ||
    (0x2000 ≤ n && n ≤ 0x200A) || n == 0x2028 || n == 0x2029 || n == 0x202F ||
    n == 0x205F || n == 0x3000

def trimStart (s : List Char) : List Char :=
  s.dropWhile isBlank

def trimEnd (s : List Char) : List Char :=
  (s.reverse.dropWhile isBlank).reverse

def trim (s : List Char) : List Char :=
  trimEnd (trimStart s)

/-- The text after one or more blanks, if it starts with one. -/
def afterBlanks? : List Char → Option (List Char)
  | [] => none
  | c :: rest => if isBlank c then some (rest.dropWhile isBlank) else none

/-- Drop one character at the end if it is the given one. -/
def dropEnd? (last : Char) (s : List Char) : Option (List Char) :=
  match s.reverse with
  | c :: before => if c = last then some before.reverse else none
  | [] => none

private def linesFrom (current : List Char) : List Char → List (List Char)
  | [] => if current.isEmpty then [] else [current.reverse]
  | c :: rest =>
      if c = '\n' then
        let line := match current with
          | '\r' :: before => before.reverse
          | _ => current.reverse
        line :: linesFrom [] rest
      else linesFrom (c :: current) rest

/-- Physical lines. A line ends at a line feed, which takes a carriage return before it along;
text after the last line feed is a line only if there is some. -/
def lines (s : List Char) : List (List Char) :=
  linesFrom [] s

private theorem linesFrom_lineFeed (current rest : List Char) :
    linesFrom current ('\n' :: rest) =
      (dropEnd? '\r' current.reverse).getD current.reverse :: lines rest := by
  cases current with
  | nil => rfl
  | cons c before =>
    by_cases taken : c = '\r'
    · subst taken
      simp [linesFrom, dropEnd?, lines]
    · simp [linesFrom, dropEnd?, lines, taken]

private theorem linesFrom_of_ne {c : Char} (other : c ≠ '\n') (current rest : List Char) :
    linesFrom current (c :: rest) = linesFrom (c :: current) rest :=
  if_neg other

private theorem linesFrom_append {line : List Char} (whole : '\n' ∉ line) (current rest : List Char) :
    linesFrom current (line ++ rest) = linesFrom (line.reverse ++ current) rest := by
  induction line generalizing current with
  | nil => rfl
  | cons c line ih =>
    have other : c ≠ '\n' := fun same => whole (same ▸ List.mem_cons_self)
    have next := ih (fun later => whole (List.mem_cons_of_mem _ later)) (c :: current)
    rw [List.cons_append, linesFrom_of_ne other, next, List.reverse_cons, List.append_assoc,
      List.singleton_append]

theorem lines_append_lineFeed {line : List Char} (whole : '\n' ∉ line) (rest : List Char) :
    lines (line ++ '\n' :: rest) = (dropEnd? '\r' line).getD line :: lines rest := by
  rw [lines, linesFrom_append whole, List.append_nil, linesFrom_lineFeed, List.reverse_reverse]

theorem lines_of_not_mem {line : List Char} (whole : '\n' ∉ line) :
    lines line = if line = [] then [] else [line] := by
  have read := linesFrom_append whole [] []
  rw [List.append_nil, List.append_nil] at read
  rw [lines, read, linesFrom]
  simp

def unlines (ls : List (List Char)) : List Char :=
  List.intercalate ['\n'] ls

end SecretFlow.Text

import SecretFlow.Text.Printable

set_option autoImplicit false
set_option relaxedAutoImplicit false

/-!
Texts in quotes for a terminal, and columns of a width.
-/

namespace SecretFlow.Text

/-- A character between quotes. One that does not show by itself is written by its number. -/
def quotedChar (c : Char) : List Char :=
  match c with
  | '\x00' => ['\\', '0']
  | '\t' => ['\\', 't']
  | '\r' => ['\\', 'r']
  | '\n' => ['\\', 'n']
  | '\x22' => ['\\', '\x22']
  | '\\' => ['\\', '\\']
  | _ =>
      if isPrintable c then [c]
      else '\\' :: 'u' :: '\x7b' :: Nat.toDigits 16 c.toNat ++ ['\x7d']

def quoted (s : String) : String :=
  String.ofList ('\x22' :: s.toList.flatMap quotedChar ++ ['\x22'])

def padEnd (width : Nat) (s : String) : String :=
  s ++ String.ofList (List.replicate (width - s.length) ' ')

end SecretFlow.Text

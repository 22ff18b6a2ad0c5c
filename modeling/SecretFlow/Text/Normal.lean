import SecretFlow.Text.Utf8

set_option autoImplicit false
set_option relaxedAutoImplicit false

/-!
The text of a file: without a byte order mark, and with plain line feeds.
-/

namespace SecretFlow.Text

/-- Add a character to a text that is kept last first; a line feed takes a carriage return right
before it along. -/
private def addFolded (before : List Char) (c : Char) : List Char :=
  if c = '\n' then
    match before with
    | '\r' :: rest => '\n' :: rest
    | _ => '\n' :: before
  else c :: before

/-- Fold each carriage return that stands before a line feed into it. -/
def foldNewlines (s : List Char) : List Char :=
  (s.foldl addFolded []).reverse

def normalizeText (text : String) : String :=
  String.ofList (foldNewlines text.toList)

def dropByteOrderMark : Utf8.Bytes → Utf8.Bytes
  | 0xEF :: 0xBB :: 0xBF :: rest => rest
  | bytes => bytes

def normalizeBytes (bytes : Utf8.Bytes) : String :=
  String.ofList (foldNewlines (Utf8.decode (dropByteOrderMark bytes)))

end SecretFlow.Text

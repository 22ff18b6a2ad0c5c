import SecretFlow.Text.Utf8

set_option autoImplicit false
set_option relaxedAutoImplicit false

/-!
Tags of nodes. A tag is written as bytes, of which a null byte ends it. Local tags start with an
exclamation mark and stay with their value; of the others only those of the core types matter.
-/

namespace SecretFlow.Yaml

open Text.Utf8 (Bytes)

inductive Tag where
  | null
  | bool
  | int
  | float
  /-- A local tag, by its name. -/
  | named (name : String)
  /-- A local tag that is not text; it says nothing. -/
  | unreadable
  /-- Any other tag; it makes a scalar a string. -/
  | foreign
  deriving DecidableEq, Repr

namespace Tag

def untilNull (bytes : Bytes) : Bytes :=
  bytes.takeWhile (· ≠ 0)

def coreStart : String := "tag:yaml.org,2002:"

private def coreTags : List (String × Tag) :=
  [("null", .null), ("bool", .bool), ("int", .int), ("float", .float)]

/-- A text without an exclamation mark at its start, unless there is nothing else. -/
private def withoutMark : List Char → List Char
  | '!' :: c :: rest => c :: rest
  | s => s

def ofBytes (bytes : Bytes) : Tag :=
  if bytes.head? = some 33 then
    if Text.Utf8.isValid bytes then
      .named (String.ofList (withoutMark (withoutMark (Text.Utf8.decode bytes))))
    else .unreadable
  else
    match coreTags.find? fun t => Text.Utf8.encode (coreStart ++ t.1) = bytes with
    | some (_, tag) => tag
    | none => .foreign

end Tag

end SecretFlow.Yaml

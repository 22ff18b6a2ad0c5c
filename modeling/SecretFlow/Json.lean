set_option autoImplicit false
set_option relaxedAutoImplicit false

/-!
JSON values and their text over several lines.
-/

namespace SecretFlow

/-- A value; the fields of an object stand in their order. -/
inductive JsonValue where
  | null
  | bool (b : Bool)
  | number (n : Nat)
  | string (s : String)
  | array (items : List JsonValue)
  | object (fields : List (String × JsonValue))

namespace JsonValue

def ofText? : Option String → JsonValue
  | some s => string s
  | none => null

def ofTexts (xs : List String) : JsonValue :=
  array (xs.map string)

def sorted (fields : List (String × JsonValue)) : JsonValue :=
  object (fields.mergeSort fun a b => a.1 ≤ b.1)

private def hexEscape (c : Char) : List Char :=
  let digits := Nat.toDigits 16 c.toNat
  '\\' :: 'u' :: List.replicate (4 - digits.length) '0' ++ digits

def escapeChar (c : Char) : List Char :=
  match c with
  | '\x22' => ['\\', '\x22']
  | '\\' => ['\\', '\\']
  | '\x08' => ['\\', 'b']
  | '\x0c' => ['\\', 'f']
  | '\n' => ['\\', 'n']
  | '\r' => ['\\', 'r']
  | '\t' => ['\\', 't']
  | _ => if c.toNat < 32 then hexEscape c else [c]

def quote (s : String) : String :=
  String.ofList ('\x22' :: s.toList.flatMap escapeChar ++ ['\x22'])

private def newline (level : Nat) : String :=
  String.ofList ('\n' :: List.replicate (2 * level) ' ')

mutual

def render (level : Nat) : JsonValue → String
  | null => "null"
  | bool b => if b then "true" else "false"
  | number n => toString n
  | string s => quote s
  | array [] => "[]"
  | array (v :: vs) =>
      "[" ++ newline (level + 1) ++ render (level + 1) v ++ renderItems (level + 1) vs ++
        newline level ++ "]"
  | object [] => "\x7b\x7d"
  | object ((k, v) :: rest) =>
      "\x7b" ++ newline (level + 1) ++ quote k ++ ": " ++ render (level + 1) v ++
        renderFields (level + 1) rest ++ newline level ++ "\x7d"

def renderItems (level : Nat) : List JsonValue → String
  | [] => ""
  | v :: rest => "," ++ newline level ++ render level v ++ renderItems level rest

def renderFields (level : Nat) : List (String × JsonValue) → String
  | [] => ""
  | (k, v) :: rest =>
      "," ++ newline level ++ quote k ++ ": " ++ render level v ++ renderFields level rest

end

def text (v : JsonValue) : String :=
  v.render 0

end JsonValue

end SecretFlow

import SecretFlow.Decimal.Shortest

set_option autoImplicit false
set_option relaxedAutoImplicit false

/-!
Values of YAML documents, and how one is looked into.
-/

namespace SecretFlow.Yaml

open SecretFlow.Decimal (Binary64)

/-- A value. A mapping keeps its entries in the order of the text. -/
inductive Value where
  | null
  | bool (value : Bool)
  | integer (value : Int)
  | real (value : Binary64)
  | text (value : String)
  | sequence (items : List Value)
  | mapping (entries : List (Value × Value))
  | tagged (tag : String) (value : Value)
  deriving Repr

/-- Whether two numbers count as one key: zeros of both signs do, and a number that is undefined
equals itself. -/
private def sameReal : Binary64 → Binary64 → Bool
  | .finite _ 0 _, .finite _ 0 _ => true
  | a, b => a = b

mutual

/-- Whether two values count as one key. The order of a mapping does not matter. -/
def Value.same : Value → Value → Bool
  | .null, .null => true
  | .bool a, .bool b => a = b
  | .integer a, .integer b => a = b
  | .real a, .real b => sameReal a b
  | .text a, .text b => a = b
  | .sequence a, .sequence b => sameItems a b
  | .mapping a, .mapping b => a.length = b.length && sameEntries a b
  | .tagged s a, .tagged t b => s = t && a.same b
  | _, _ => false

def sameItems : List Value → List Value → Bool
  | [], [] => true
  | a :: as, b :: bs => a.same b && sameItems as bs
  | _, _ => false

def sameEntries : List (Value × Value) → List (Value × Value) → Bool
  | [], _ => true
  | (k, v) :: rest, bs => bs.any (fun e => k.same e.1 && v.same e.2) && sameEntries rest bs

end

namespace Value

def untagged : Value → Value
  | .tagged _ v => v.untagged
  | v => v

def isNull (v : Value) : Bool :=
  match v.untagged with
  | .null => true
  | _ => false

def text? (v : Value) : Option String :=
  match v.untagged with
  | .text s => some s
  | _ => none

def items? (v : Value) : Option (List Value) :=
  match v.untagged with
  | .sequence xs => some xs
  | _ => none

def entries? (v : Value) : Option (List (Value × Value)) :=
  match v.untagged with
  | .mapping es => some es
  | _ => none

def isKey (key : String) : Value → Bool
  | .text s => s = key
  | _ => false

def get? (v : Value) (key : String) : Option Value :=
  (v.entries?.getD []).find? (isKey key ·.1) |>.map (·.2)

def at? (v : Value) : List String → Option Value
  | [] => some v
  | key :: keys => (v.get? key).bind (·.at? keys)

def textAt? (v : Value) (key : String) : Option String :=
  (v.get? key).bind text?

/-- The text of a string, number or truth value without a tag. -/
def scalarText? : Value → Option String
  | .text s => some s
  | .integer n => some (toString n)
  | .real x => some x.text
  | .bool b => some (if b then "true" else "false")
  | _ => none

end Value

end SecretFlow.Yaml

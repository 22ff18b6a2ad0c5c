set_option autoImplicit false
set_option relaxedAutoImplicit false

/-!
Values of TOML documents, and the rules on which tables may be added to.
-/

namespace SecretFlow.Toml

/-- How a table came about: in braces, by a header of its own, on the way to the table of a header,
or on the way to a dotted key. -/
inductive TableForm where
  | inline
  | header
  | implied
  | dotted
  deriving DecidableEq, Repr

/-- A value. Real numbers and dates are kept as they are written. An array is open if headers add
tables to it. -/
inductive Value where
  | text (value : String)
  | integer (value : Int)
  | bool (value : Bool)
  | real (written : String)
  | date (written : String)
  | array (isOpen : Bool) (items : List Value)
  | table (form : TableForm) (entries : List (String × Value))
  deriving Repr

abbrev Entries := List (String × Value)

namespace Entries

def get? (es : Entries) (key : String) : Option Value :=
  (es.find? (·.1 = key)).map (·.2)

def put (es : Entries) (key : String) (v : Value) : Entries :=
  if es.any (·.1 = key) then es.map fun e => if e.1 = key then (key, v) else e
  else es ++ [(key, v)]

def erase (es : Entries) (key : String) : Entries :=
  es.filter (·.1 ≠ key)

/-- Change the table that a path leads to, and give a result. Tables that are missing on the way
are made. A dotted key does not enter a table that has a header of its own. The change is told
whether it takes place in a table of dotted keys. -/
def change {α : Type} (dotted : Bool) (f : Bool → Entries → Option (Entries × α)) :
    Bool → List String → Entries → Option (Entries × α)
  | inDotted, [], es => f inDotted es
  | _, key :: path, es => do
      match es.get? key with
      | none =>
          let (inner, a) ← change dotted f dotted path []
          return (es.put key (.table (if dotted then .dotted else .implied) inner), a)
      | some (.table form inner) =>
          if form = .inline || (dotted && form = .header) then none
          else
            let (inner, a) ← change dotted f (form = .dotted) path inner
            return (es.put key (.table form inner), a)
      | some (.array true items) =>
          match items.reverse with
          | .table form inner :: before =>
              let (inner, a) ← change dotted f (form = .dotted) path inner
              return (es.put key (.array true (before.reverse ++ [.table form inner])), a)
          | _ => none
      | some _ => none

/-- Add a value under a dotted key: the tables to go through, and the key in the last of them. -/
def addDotted? (es : Entries) (path : List String) (key : String) (v : Value) : Option Entries :=
  let add (inDotted : Bool) (inner : Entries) : Option (Entries × Unit) :=
    if inDotted = path.isEmpty || (inner.get? key).isSome then none
    else some (inner.put key v, ())
  (es.change true add false path).map (·.1)

end Entries

end SecretFlow.Toml

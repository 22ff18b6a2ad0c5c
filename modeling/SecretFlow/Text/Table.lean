set_option autoImplicit false
set_option relaxedAutoImplicit false

/-!
Tables from names to values, kept in the order of their names.
-/

namespace SecretFlow.Text

/-- Entries by name; the names ascend by code points. -/
abbrev Table (α : Type) := List (String × α)

namespace Table

variable {α : Type}

/-- Put a value under a name, in place of one that is there. -/
def insert (t : Table α) (name : String) (value : α) : Table α :=
  match t with
  | [] => [(name, value)]
  | (n, v) :: rest =>
      if name < n then (name, value) :: (n, v) :: rest
      else if name = n then (name, value) :: rest
      else (n, v) :: insert rest name value

def get? (t : Table α) (name : String) : Option α :=
  (t.find? (·.1 = name)).map (·.2)

def names (t : Table α) : List String :=
  t.map (·.1)

/-- The table of entries, of which the last under a name counts. -/
def ofEntries (entries : List (String × α)) : Table α :=
  entries.foldl (fun t e => insert t e.1 e.2) []

end Table

def sortedNames (names : List String) : List String :=
  (Table.ofEntries (names.map fun n => (n, ()))).names

end SecretFlow.Text

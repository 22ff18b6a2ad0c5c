import SecretFlow.Text.CharRanges.Algebra
import SecretFlow.Text.Property.Age
import SecretFlow.Text.Property.Binary
import SecretFlow.Text.Property.Break
import SecretFlow.Text.Property.Category
import SecretFlow.Text.Property.Script
import SecretFlow.Text.Property.ScriptExtension

set_option autoImplicit false
set_option relaxedAutoImplicit false

/-!
Sets of characters with a property, given by the name of the property, or by its name and a value.
Names are compared loosely: without regard to case, blanks, hyphens, underscores and a leading
`is`.
-/

namespace SecretFlow.Text.Property

/-- A name without what does not count in it. The name `isc` keeps its start, since it does not
stand for the name `c`. -/
def looseName (name : List Char) : String :=
  let lower := name.map Char.toLower
  let counted (s : List Char) : List Char :=
    s.filter fun c => c.toNat < 0x80 && c ≠ ' ' && c ≠ '_' && c ≠ '-'
  match lower with
  | 'i' :: 's' :: rest =>
      match counted rest with
      | ['c'] => "isc"
      | short => String.ofList short
  | _ => String.ofList (counted lower)

def categoryGroup? : String → Option (List String)
  | "l" | "letter" => some ["lu", "ll", "lt", "lm", "lo"]
  | "lc" | "casedletter" => some ["lu", "ll", "lt"]
  | "m" | "mark" | "combiningmark" => some ["mn", "mc", "me"]
  | "n" | "number" => some ["nd", "nl", "no"]
  | "p" | "punctuation" | "punct" => some ["pc", "pd", "ps", "pe", "pi", "pf", "po"]
  | "s" | "symbol" => some ["sm", "sc", "sk", "so"]
  | "z" | "separator" => some ["zs", "zl", "zp"]
  | "c" | "other" => some ["cc", "cf", "co", "cn"]
  | _ => none

def category? (name : String) : Option CharRanges :=
  match name with
  | "any" => some CharRanges.all
  | "ascii" => some (CharRanges.ofBounds [(0, 0x7F)])
  | "assigned" => (categories.named? "cn").map CharRanges.compl
  | _ =>
      match categoryGroup? name with
      | some members => some ((members.filterMap categories.named?).foldl CharRanges.union .empty)
      | none => categories.named? name

def age? (version : String) : Option CharRanges :=
  let (earlier, rest) := ages.span fun e => !(e.1.toList.splitOn ' ').contains version.toList
  match rest with
  | [] => none
  | own :: _ =>
      some ((own :: earlier).foldl (fun t e => t.union (CharRanges.ofText e.2)) .empty)

/-- The characters with the property of a name: one that a character has or has not, a category
or a script. -/
def named? (name : List Char) : Option CharRanges :=
  let name := looseName name
  (properties.named? name).orElse fun _ =>
    (category? name).orElse fun _ => scripts.named? name

def valued? (property value : List Char) : Option CharRanges :=
  let value := looseName value
  match looseName property with
  | "gc" | "generalcategory" => category? value
  | "sc" | "script" => scripts.named? value
  | "scx" | "scriptextensions" => scriptExtensions.named? value
  | "age" => age? value
  | "gcb" | "graphemeclusterbreak" => graphemeBreaks.named? value
  | "wb" | "wordbreak" => wordBreaks.named? value
  | "sb" | "sentencebreak" => sentenceBreaks.named? value
  | _ => none

end SecretFlow.Text.Property

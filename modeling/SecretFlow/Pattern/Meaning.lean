import SecretFlow.Pattern.Reader
import SecretFlow.Pattern.Simplify
import SecretFlow.Text.Fold

set_option autoImplicit false
set_option relaxedAutoImplicit false

/-!
What a written pattern means under flags. A change of flags counts up to the end of the group it
stands in. Where characters are bytes, only basic Latin characters can be told, since a pattern
must not match parts of a character.
-/

namespace SecretFlow.Pattern

open Text (CharRanges)

/-- The set with all forms of its letters if case is ignored. -/
private def Flags.folded (f : Flags) (set : CharRanges) : CharRanges :=
  if f.ignoreCase then if f.unicode then Text.caseClosure set else Text.latinCaseClosure set
  else set

/-- The set, or what it leaves out. Among bytes that would be parts of characters too. -/
private def Flags.negated (f : Flags) (negated : Bool) (set : CharRanges) :
    Except PatternError CharRanges :=
  if negated then if f.unicode then .ok set.compl else .error .invalidText else .ok set

private def Flags.classChar (f : Flags) (l : Literal) : Except PatternError Char :=
  if f.unicode || l.char.toNat < 0x80 then .ok l.char else .error .invalidText

private def latinShort : ShortClass → CharRanges
  | .digit => CharRanges.ofText "30-39"
  | .space => CharRanges.ofText "9-D 20"
  | .word => CharRanges.ofText "30-39 41-5A 5F 61-7A"

private def blankRanges : CharRanges :=
  CharRanges.ofText "9-D 20 85 A0 1680 2000-200A 2028-2029 202F 205F 3000"

/-- A class of one letter. It holds all forms of its letters as it is. -/
private def Flags.short (f : Flags) (kind : ShortClass) (negated : Bool) :
    Except PatternError CharRanges :=
  f.negated negated <|
    if f.unicode then
      match kind with
      | .digit => Text.digitRanges
      | .space => blankRanges
      | .word => Text.wordRanges
    else latinShort kind

private def Flags.property (f : Flags) (name : PropertyName) (negated : Bool) :
    Except PatternError CharRanges :=
  let set := match name with
    | .alone name => Text.Property.named? name
    | .withValue name value => Text.Property.valued? name value
  match set with
  | some set => if f.unicode then f.negated negated (f.folded set) else .error .property
  | none => .error .property

private def SetOperation.apply : SetOperation → CharRanges → CharRanges → CharRanges
  | .intersection => CharRanges.inter
  | .difference => CharRanges.diff
  | .symmetricDifference => CharRanges.symmDiff

mutual

private def ClassSet.meaning (f : Flags) : ClassSet → Except PatternError CharRanges
  | .empty => .ok .empty
  | .literal l => (f.classChar l).map .single
  | .range first last => do .ok (.between (← f.classChar first) (← f.classChar last))
  | .latin set negated => f.negated negated (f.folded set)
  | .short kind negated => f.short kind negated
  | .property name negated => f.property name negated
  | .bracketed body negated => do f.negated negated (f.folded (← body.meaning f))
  | .union items => ClassSet.unionMeaning f items
  | .operation op left right => do
      .ok (op.apply (f.folded (← left.meaning f)) (f.folded (← right.meaning f)))

private def ClassSet.unionMeaning (f : Flags) : List ClassSet → Except PatternError CharRanges
  | [] => .ok .empty
  | item :: rest => do .ok ((← item.meaning f).union (← ClassSet.unionMeaning f rest))

end

private def Flags.literal (f : Flags) (l : Literal) : Except PatternError Pattern :=
  if !f.unicode && l.byte && 0x80 ≤ l.char.toNat then .error .invalidText
  else .ok (ofSet (f.folded (.single l.char)) !f.unicode)

private def Flags.dot (f : Flags) : Except PatternError Pattern :=
  if !f.unicode then .error .invalidText
  else if f.dotAll then .ok (ofSet .all false)
  else if f.crlf then .ok (ofSet (CharRanges.ofText "A D").compl false)
  else .ok (ofSet (CharRanges.ofText "A").compl false)

private def Flags.boundary (f : Flags) : Assertion → Boundary
  | .lineStart => if f.multiLine then .lineStart f.crlf else .textStart
  | .lineEnd => if f.multiLine then .lineEnd f.crlf else .textEnd
  | .textStart => .textStart
  | .textEnd => .textEnd
  | .wordEdge => .word .edge !f.unicode
  | .noWordEdge => .word .noEdge !f.unicode
  | .wordStart => .word .start !f.unicode
  | .wordEnd => .word .finish !f.unicode
  | .wordStartHalf => .word .startHalf !f.unicode
  | .wordEndHalf => .word .finishHalf !f.unicode

mutual

private def Expr.meaning (f : Flags) : Expr → Except PatternError (Pattern × Flags)
  | .empty => .ok (.empty, f)
  | .flags change => .ok (.empty, f.after change)
  | .literal l => (f.literal l).map (·, f)
  | .dot => f.dot.map (·, f)
  | .assertion a => .ok (.boundary (f.boundary a), f)
  | .short kind negated => (f.short kind negated).map fun set => (ofSet set !f.unicode, f)
  | .property name negated => (f.property name negated).map fun set => (ofSet set false, f)
  | .bracketed body negated => do
      let set ← f.negated negated (f.folded (← body.meaning f))
      .ok (ofSet set !f.unicode, f)
  | .repeated body least most greedy => do
      let (p, after) ← body.meaning f
      .ok (ofRepetition p least most (greedy != after.swapGreed), after)
  | .group (.capture index) body => do
      let (p, _) ← body.meaning f
      .ok (.capture index p, f)
  | .group (.plain change) body => do
      let (p, _) ← body.meaning (f.after change)
      .ok (p, f)
  | .choice branches => do
      let (ps, after) ← Expr.meanings f branches
      .ok (Pattern.ofBranches ps, after)
  | .sequence parts => do
      let (ps, after) ← Expr.meanings f parts
      .ok (Pattern.ofParts ps, after)

/-- What written patterns mean one after the other, and the flags after them. -/
private def Expr.meanings (f : Flags) : List Expr → Except PatternError (List Pattern × Flags)
  | [] => .ok ([], f)
  | e :: rest => do
      let (p, f) ← e.meaning f
      let (ps, f) ← Expr.meanings f rest
      .ok (p :: ps, f)

end

def ofText (text : String) : Except PatternError Pattern := do
  let e ← Expr.ofText text
  let (p, _) ← e.meaning {}
  .ok p

end SecretFlow.Pattern

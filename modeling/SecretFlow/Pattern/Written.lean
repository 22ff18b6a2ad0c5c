import SecretFlow.Pattern.Flags
import SecretFlow.Text.CharRanges

set_option autoImplicit false
set_option relaxedAutoImplicit false

/-!
Patterns as they are written: literals, classes, groups, alternatives and repetitions, before
flags are applied to them. The depth of a tree counts the constructs that hold others.
-/

namespace SecretFlow.Pattern

/-- A character that stands for itself. One that is written with two hexadecimal digits is a byte
where characters are bytes. -/
structure Literal where
  char : Char
  byte : Bool := false
  deriving DecidableEq, Repr

inductive ShortClass where
  | digit
  | space
  | word
  deriving DecidableEq, Repr

/-- How a property is named: by itself or with a value. -/
inductive PropertyName where
  | alone (name : List Char)
  | withValue (name value : List Char)
  deriving DecidableEq, Repr

inductive SetOperation where
  | intersection
  | difference
  | symmetricDifference
  deriving DecidableEq, Repr

inductive ClassSet where
  | empty
  | literal (l : Literal)
  | range (first last : Literal)
  | latin (set : Text.CharRanges) (negated : Bool)
  | short (kind : ShortClass) (negated : Bool)
  | property (name : PropertyName) (negated : Bool)
  | bracketed (body : ClassSet) (negated : Bool)
  | union (items : List ClassSet)
  | operation (op : SetOperation) (left right : ClassSet)

inductive Assertion where
  | lineStart
  | lineEnd
  | textStart
  | textEnd
  | wordEdge
  | noWordEdge
  | wordStart
  | wordEnd
  | wordStartHalf
  | wordEndHalf
  deriving DecidableEq, Repr

inductive GroupKind where
  | capture (index : Nat)
  | plain (change : FlagChange)
  deriving DecidableEq, Repr

inductive Expr where
  | empty
  | flags (change : FlagChange)
  | literal (l : Literal)
  | dot
  | assertion (a : Assertion)
  | short (kind : ShortClass) (negated : Bool)
  | property (name : PropertyName) (negated : Bool)
  | bracketed (body : ClassSet) (negated : Bool)
  | repeated (body : Expr) (least : Nat) (most : Option Nat) (greedy : Bool)
  | group (kind : GroupKind) (body : Expr)
  | choice (branches : List Expr)
  | sequence (parts : List Expr)

def ClassSet.ofItems : List ClassSet → ClassSet
  | [] => .empty
  | [item] => item
  | items => .union items

def Expr.ofParts : List Expr → Expr
  | [] => .empty
  | [part] => part
  | parts => .sequence parts

def Expr.ofBranches : List Expr → Expr
  | [branch] => branch
  | branches => .choice branches

mutual

def ClassSet.depth : ClassSet → Nat
  | .bracketed body _ => body.depth + 1
  | .union items => ClassSet.depths items + 1
  | .operation _ left right => max left.depth right.depth + 1
  | _ => 0

def ClassSet.depths : List ClassSet → Nat
  | [] => 0
  | item :: rest => max item.depth (ClassSet.depths rest)

end

mutual

def Expr.depth : Expr → Nat
  | .bracketed body _ => body.depth + 1
  | .repeated body _ _ _ => body.depth + 1
  | .group _ body => body.depth + 1
  | .choice branches => Expr.depths branches + 1
  | .sequence parts => Expr.depths parts + 1
  | _ => 0

def Expr.depths : List Expr → Nat
  | [] => 0
  | e :: rest => max e.depth (Expr.depths rest)

end

end SecretFlow.Pattern

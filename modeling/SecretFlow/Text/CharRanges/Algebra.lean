import SecretFlow.Text.CharRanges

set_option autoImplicit false
set_option relaxedAutoImplicit false

/-!
Sets of characters as ranges: union, intersection, complement and differences. The results are
again ascending, and ranges that touch are one. Code points that are no characters, the
surrogates, are in no set that is made here.
-/

namespace SecretFlow.Text.CharRanges

abbrev Bounds := List (Nat × Nat)

def allBounds : Bounds := [(0, 0xD7FF), (0xE000, 0x10FFFF)]

def fuse : Bounds → Bounds
  | [] => []
  | [r] => [r]
  | (a, b) :: (c, d) :: rest =>
      if c ≤ b + 1 then fuse ((a, max b d) :: rest) else (a, b) :: fuse ((c, d) :: rest)
termination_by l => l.length
decreasing_by all_goals simp only [List.length_cons]; omega

def meet : Bounds → Bounds → Bounds
  | [], _ => []
  | _, [] => []
  | (a, b) :: r, (c, d) :: s =>
      let rest := if b ≤ d then meet r ((c, d) :: s) else meet ((a, b) :: r) s
      if max a c ≤ min b d then (max a c, min b d) :: rest else rest
termination_by r s => r.length + s.length
decreasing_by all_goals simp only [List.length_cons]; omega

def gaps : Nat → Bounds → Bounds
  | start, [] => if start ≤ 0x10FFFF then [(start, 0x10FFFF)] else []
  | start, (a, b) :: rest =>
      if start < a then (start, a - 1) :: gaps (b + 1) rest else gaps (b + 1) rest

def empty : CharRanges := ⟨#[]⟩

def all : CharRanges := ⟨allBounds.toArray⟩

def isEmpty (t : CharRanges) : Bool :=
  t.ranges.isEmpty

/-- The set of characters in the given ranges, which may be in any order. -/
def ofBounds (bounds : Bounds) : CharRanges :=
  ⟨(meet (fuse (bounds.mergeSort fun r s => r.1 ≤ s.1)) allBounds).toArray⟩

def between (first last : Char) : CharRanges :=
  ofBounds [(first.toNat, last.toNat)]

def single (c : Char) : CharRanges :=
  between c c

def only? (t : CharRanges) : Option Char :=
  match t.ranges.toList with
  | [(a, b)] => if a = b then some (Char.ofNat a) else none
  | _ => none

def isLatin (t : CharRanges) : Bool :=
  t.ranges.all fun r => r.2 < 0x80

def union (s t : CharRanges) : CharRanges :=
  ⟨(fuse (List.merge s.ranges.toList t.ranges.toList fun a b => a.1 ≤ b.1)).toArray⟩

def inter (s t : CharRanges) : CharRanges :=
  ⟨(meet s.ranges.toList t.ranges.toList).toArray⟩

def compl (t : CharRanges) : CharRanges :=
  ⟨(meet (gaps 0 t.ranges.toList) allBounds).toArray⟩

def diff (s t : CharRanges) : CharRanges :=
  s.inter t.compl

def symmDiff (s t : CharRanges) : CharRanges :=
  (s.union t).diff (s.inter t)

end SecretFlow.Text.CharRanges

import SecretFlow.Automaton.Basic
import SecretFlow.Automaton.ByteRanges
import SecretFlow.Text.CharRanges.Algebra
import Std.Data.HashMap

set_option autoImplicit false
set_option relaxedAutoImplicit false

/-!
Fragments for the characters of a set. States that do the same are shared as far as they are
remembered: a memory has a fixed number of places, a hash value says at which place a state is
remembered, and a state that comes later takes the place of an earlier one.
-/

namespace SecretFlow.Automaton

open Text (CharRanges)

private def mix (h : UInt64) (n : Nat) : UInt64 :=
  (h ^^^ n.toUInt64) * 1099511628211

private def hashStart : UInt64 := 14695981039346656037

/-- States at the places where they are remembered, with what each does. -/
private abbrev Remembered (κ : Type) := Std.HashMap Nat (κ × Nat)

private def Remembered.state? {κ : Type} [DecidableEq κ] (r : Remembered κ) (place : Nat) (key : κ) :
    Option Nat :=
  match r[place]? with
  | some (k, id) => if k = key then some id else none
  | none => none

/-- The place of a state that leads on with one of several bytes. -/
private def arrowsPlace (arrows : List Arrow) : Nat :=
  let h := arrows.foldl (fun h a => mix (mix (mix h a.first.toNat) a.last.toNat) a.target) hashStart
  h.toNat % 10000

/-- A state that is not added yet: its arrows so far, the last first, and the range of an arrow
whose target is not known. -/
private structure Growing where
  arrows : List Arrow := []
  last : Option (UInt8 × UInt8) := none

private def Growing.settle (g : Growing) (target : Nat) : Growing :=
  match g.last with
  | some (first, last) => ⟨⟨first, last, target⟩ :: g.arrows, none⟩
  | none => g

/-- States for the bytes of characters in ascending order. Those on the way of the last character
are not added yet, the one for its last byte first. -/
private structure Spelling where
  remembered : Remembered (List Arrow) := {}
  growing : List Growing := [{}]

/-- Add a state, unless one that does the same is remembered. -/
private def addArrows (r : Remembered (List Arrow)) (g : Growing) :
    Build (Nat × Remembered (List Arrow)) :=
  let arrows := g.arrows.reverse
  let place := arrowsPlace arrows
  match r.state? place arrows with
  | some id => pure (id, r)
  | none => do
      let id ← addState (.bytes arrows)
      pure (id, r.insert place (arrows, id))

private def addBeyond (depth : Nat) (target : Nat) (r : Remembered (List Arrow)) :
    List Growing → Build Spelling
  | [] => pure ⟨r, []⟩
  | [g] => pure ⟨r, [g.settle target]⟩
  | g :: g' :: before =>
      if depth ≤ before.length then do
        let (id, r) ← addArrows r (g.settle target)
        addBeyond depth id r (g' :: before)
      else pure ⟨r, g.settle target :: g' :: before⟩

/-- How many states of a way, from its start, are on the way of further bytes too. -/
private def sharedLength : List Growing → ByteRanges → Nat
  | g :: rest, range :: ranges => if g.last = some range then sharedLength rest ranges + 1 else 0
  | _, _ => 0

private def Spelling.add (target : Nat) (s : Spelling) (ranges : ByteRanges) : Build Spelling := do
  let shared := sharedLength s.growing.reverse ranges
  let s ← addBeyond shared target s.remembered s.growing
  match s.growing, ranges.drop shared with
  | top :: before, range :: more =>
      let way := more.foldl (fun way range => { last := some range } :: way)
        ({ top with last := some range } :: before)
      pure { s with growing := way }
  | _, _ => pure s

private def spell (sequences : List ByteRanges) : Build Fragment := do
  let stop ← addState (.pass 0)
  let s ← sequences.foldlM (Spelling.add stop) {}
  let s ← addBeyond 0 stop s.remembered s.growing
  match s.growing with
  | root :: _ =>
      let (start, _) ← addArrows s.remembered root
      pure ⟨start, stop⟩
  | [] => pure ⟨stop, stop⟩

/-- The place of a state that leads to another with a byte of a range. -/
private def rangePlace (target : Nat) (range : UInt8 × UInt8) : Nat :=
  (mix (mix (mix hashStart target) range.1.toNat) range.2.toNat).toNat % 1000

/-- States that read the bytes of a sequence backwards, from a state on. -/
private def spellBack (r : Remembered (Nat × UInt8 × UInt8)) (target : Nat) :
    ByteRanges → Build (Nat × Remembered (Nat × UInt8 × UInt8))
  | [] => pure (target, r)
  | range :: rest =>
      let place := rangePlace target range
      match r.state? place (target, range) with
      | some id => spellBack r id rest
      | none => do
          let id ← addState (.byte ⟨range.1, range.2, target⟩)
          spellBack (r.insert place ((target, range), id)) id rest

private def spellAllBack (sequences : List ByteRanges) : Build Fragment := do
  let start ← addState (.split [])
  let stop ← addState (.pass 0)
  let _ ← sequences.foldlM (fun r ranges => do
    let (id, r) ← spellBack r stop ranges
    connect start id
    pure r) ({} : Remembered (Nat × UInt8 × UInt8))
  pure ⟨start, stop⟩

/-- A fragment that takes a character of a set, forwards or backwards. -/
def ofSet (back : Bool) (set : CharRanges) : Build Fragment :=
  if set.isLatin then do
    let stop ← addState (.pass 0)
    let arrows := set.ranges.toList.map fun r => ⟨r.1.toUInt8, r.2.toUInt8, stop⟩
    pure ⟨← addState (.bytes arrows), stop⟩
  else
    let sequences := set.ranges.toList.flatMap fun r => byteRanges r.1 r.2
    if back then spellAllBack sequences else spell sequences

end SecretFlow.Automaton

import SecretFlow.Automaton.Basic
import SecretFlow.Automaton.ByteRanges

set_option autoImplicit false
set_option relaxedAutoImplicit false

/-!
The search for a match in a text. All states that an automaton can be in are followed at once, and
at each character a match may start.
-/

namespace SecretFlow.Automaton

/-- States that are reached without a byte: the round in which each state was last seen, those
seen in this round that lead on with a byte, and whether one of them accepts. -/
private structure Reached where
  seen : Array Nat
  waiting : List Nat := []
  accepted : Bool := false

/-- Follow states that lead on without a byte. Each state is left once in a round, so as many turns
as there are links between states suffice. -/
private def follow (a : Automaton) (holds : Boundary → Bool) (round : Nat) :
    Nat → List Nat → Reached → Reached
  | 0, _, r => r
  | _ + 1, [], r => r
  | turns + 1, id :: rest, r =>
      if r.seen[id]? = some round then follow a holds round turns rest r
      else
        let r := { r with seen := r.seen.setIfInBounds id round }
        match a.states[id]? with
        | some (.pass target) => follow a holds round turns (target :: rest) r
        | some (.check condition target) =>
            follow a holds round turns (if holds condition then target :: rest else rest) r
        | some (.split targets) => follow a holds round turns (targets ++ rest) r
        | some .accept => follow a holds round turns rest { r with accepted := true }
        | some _ => follow a holds round turns rest { r with waiting := id :: r.waiting }
        | none => follow a holds round turns rest r

/-- All that is reached from some states without a byte, in a round of its own. -/
private def reach (a : Automaton) (holds : Boundary → Bool) (round : Nat) (seen : Array Nat)
    (ids : List Nat) : Reached :=
  follow a holds round (ids.length + a.states.size + a.links + 1) ids { seen }

private def next? (a : Automaton) (b : UInt8) (id : Nat) : Option Nat :=
  match a.states[id]? with
  | some (.byte arrow) => if arrow.takes b then some arrow.target else none
  | some (.bytes arrows) => (arrows.find? (·.takes b)).map (·.target)
  | _ => none

/-- The states after some bytes of a text, and the rounds so far. -/
private structure Running where
  ids : List Nat
  round : Nat
  seen : Array Nat

/-- Where states lead with the bytes of a character, within which no condition holds. -/
private def Running.afterBytes (a : Automaton) (r : Running) : List UInt8 → Running
  | [] => r
  | [b] => { r with ids := r.ids.filterMap (a.next? b) }
  | b :: rest =>
      let reached := a.reach (fun _ => false) r.round r.seen (r.ids.filterMap (a.next? b))
      Running.afterBytes a ⟨reached.waiting, r.round + 1, reached.seen⟩ rest

/-- Whether a match ends in a text, of which the character before is known, begun there or in
given states before. -/
private def Running.finds (a : Automaton) (before : Option Char) (r : Running) : List Char → Bool
  | [] => (a.reach (Boundary.holds before none) r.round r.seen (a.start :: r.ids)).accepted
  | c :: rest =>
      let reached := a.reach (Boundary.holds before (some c)) r.round r.seen (a.start :: r.ids)
      if reached.accepted then true
      else
        let after := Running.afterBytes a ⟨reached.waiting, r.round + 1, reached.seen⟩
          (bytesOfPoint c.toNat)
        Running.finds a (some c) after rest

def finds (a : Automaton) (text : String) : Bool :=
  Running.finds a none ⟨[], 1, Array.replicate a.states.size 0⟩ text.toList

end SecretFlow.Automaton

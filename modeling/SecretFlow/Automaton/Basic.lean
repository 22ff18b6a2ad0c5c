import SecretFlow.Pattern.Boundary
import SecretFlow.Pattern.Error

set_option autoImplicit false
set_option relaxedAutoImplicit false

/-!
Automata that read a text byte by byte, and how they are built. States are added one after the
other and know each other by number; where a state leads is set once the state there is known.
An automaton takes memory for each state and for what a state lists, and there is a limit to it.
-/

namespace SecretFlow

structure Arrow where
  first : UInt8
  last : UInt8
  target : Nat
  deriving DecidableEq, Repr

def Arrow.takes (a : Arrow) (b : UInt8) : Bool :=
  a.first ≤ b && b ≤ a.last

/-- A state of an automaton. A state leads on by itself, under a condition, on a byte, or to
several states at once. -/
inductive AutomatonState where
  | pass (target : Nat)
  | check (condition : Boundary) (target : Nat)
  | byte (arrow : Arrow)
  | bytes (arrows : List Arrow)
  | split (targets : List Nat)
  | accept

/-- An automaton with the state in which it starts. The number of links bounds how many states
all states lead to. -/
structure Automaton where
  states : Array AutomatonState
  start : Nat
  links : Nat

namespace Automaton

/-- What has been built: the states, and the memory in bytes that their lists take. -/
structure Built where
  states : Array AutomatonState := #[]
  listed : Nat := 0

/-- The memory of all states, of which each takes 32 bytes by itself. -/
def Built.memory (b : Built) : Nat :=
  32 * b.states.size + b.listed

def maxMemory : Nat := 10485760

/-- A step of building, which fails once the memory is used up. -/
def Build (α : Type) : Type := Built → Except PatternError (α × Built)

/-- A part of an automaton: the state in which it starts, and the one from which it leads on. -/
structure Fragment where
  start : Nat
  stop : Nat
  deriving DecidableEq, Repr

@[inline] def Build.andThen {α β : Type} (first : Build α) (second : α → Build β) : Build β :=
  fun b =>
    match first b with
    | .ok (a, b) => second a b
    | .error e => .error e

@[inline] def Build.done {α : Type} (a : α) : Build α :=
  fun b => .ok (a, b)

instance : Monad Build where
  pure := Build.done
  bind := Build.andThen

private def listedBytes : AutomatonState → Nat
  | .bytes arrows => 8 * arrows.length
  | .split targets => 4 * targets.length
  | _ => 0

def addState (s : AutomatonState) : Build Nat := fun b =>
  let id := b.states.size
  let b : Built := ⟨b.states.push s, b.listed + listedBytes s⟩
  if maxMemory < b.memory then .error .tooLarge else .ok (id, b)

def pass : Build Fragment := do
  let id ← addState (.pass 0)
  pure ⟨id, id⟩

/-- Add a state that leads on with a byte of a range, as a fragment. -/
def range (first last : UInt8) : Build Fragment := do
  let id ← addState (.byte ⟨first, last, 0⟩)
  pure ⟨id, id⟩

/-- The state with a further target, and the memory that this takes. -/
private def leadTo (target : Nat) : AutomatonState → AutomatonState × Nat
  | .pass _ => (.pass target, 0)
  | .check condition _ => (.check condition target, 0)
  | .byte arrow => (.byte { arrow with target }, 0)
  | .split targets => (.split (target :: targets), 4)
  | s => (s, 0)

def connect (source target : Nat) : Build Unit := fun b =>
  match b.states[source]? with
  | none => .ok ((), b)
  | some s =>
      let (s, more) := leadTo target s
      let b : Built := ⟨b.states.setIfInBounds source s, b.listed + more⟩
      if maxMemory < b.memory then .error .tooLarge else .ok ((), b)

def chain : List (Build Fragment) → Build Fragment
  | [] => pass
  | first :: rest => do
      let f ← first
      rest.foldlM (fun f next => do
        let g ← next
        connect f.stop g.start
        pure ⟨f.start, g.stop⟩) f

def addCopies (copy : Build Fragment) : Nat → Fragment → Build Fragment
  | 0, f => pure f
  | n + 1, f => do
      let g ← copy
      connect f.stop g.start
      addCopies copy n ⟨f.start, g.stop⟩

def copies (copy : Build Fragment) : Nat → Build Fragment
  | 0 => pass
  | n + 1 => do addCopies copy n (← copy)

end Automaton

end SecretFlow

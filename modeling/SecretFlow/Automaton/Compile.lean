import SecretFlow.Automaton.CharSet
import SecretFlow.Automaton.Words
import SecretFlow.Pattern.Basic

set_option autoImplicit false
set_option relaxedAutoImplicit false

/-!
The automaton of a pattern. Repetitions are written out, so a pattern with large counts can take
more memory than there is. A pattern is refused if the automaton that reads forwards is too large,
and also if the one that reads backwards is.
-/

namespace SecretFlow.Automaton

private def textBytes (text : List Char) : List UInt8 :=
  text.flatMap fun c => bytesOfPoint c.toNat

private def ofText (back : Bool) (text : List Char) : Build Fragment :=
  let bytes := textBytes text
  chain ((if back then bytes.reverse else bytes).map fun b => range b b)

private def optional (body : Build Fragment) : Build Fragment := do
  let fork ← addState (.split [])
  let f ← body
  let stop ← addState (.pass 0)
  connect fork f.start
  connect fork stop
  connect f.stop stop
  pure ⟨fork, stop⟩

/-- A fragment any number of times, if it takes some byte each time. -/
private def loop (body : Build Fragment) : Build Fragment := do
  let fork ← addState (.split [])
  let f ← body
  connect fork f.start
  connect f.stop fork
  pure ⟨fork, fork⟩

/-- A fragment that may take no byte any number of times: once or more, or not at all. -/
private def guardedLoop (body : Build Fragment) : Build Fragment := do
  let f ← body
  let again ← addState (.split [])
  connect f.stop again
  connect again f.start
  let fork ← addState (.split [])
  let stop ← addState (.pass 0)
  connect fork f.start
  connect fork stop
  connect again stop
  pure ⟨fork, stop⟩

private def onceOrMore (body : Build Fragment) : Build Fragment := do
  let f ← body
  let again ← addState (.split [])
  connect f.stop again
  connect again f.start
  pure ⟨f.start, again⟩

/-- A fragment at least a number of times. -/
private def atLeast (body : Build Fragment) (takesBytes : Bool) : Nat → Build Fragment
  | 0 => if takesBytes then loop body else guardedLoop body
  | 1 => onceOrMore body
  | n + 2 => do
      let start ← copies body (n + 1)
      let f ← body
      let again ← addState (.split [])
      connect start.stop f.start
      connect f.stop again
      connect again f.start
      pure ⟨start.start, again⟩

/-- Further copies of a fragment, before each of which a match may stop. -/
private def addOptional (body : Build Fragment) (stop : Nat) : Nat → Nat → Build Nat
  | 0, last => pure last
  | n + 1, last => do
      let fork ← addState (.split [])
      let f ← body
      connect last fork
      connect fork f.start
      connect fork stop
      addOptional body stop n f.stop

private def bounded (body : Build Fragment) (least most : Nat) : Build Fragment := do
  let start ← copies body least
  let stop ← addState (.pass 0)
  let last ← addOptional body stop (most - least) start.stop
  connect last stop
  pure ⟨start.start, stop⟩

private def repetition (body : Build Fragment) (takesBytes : Bool) (least : Nat) :
    Option Nat → Build Fragment
  | none => atLeast body takesBytes least
  | some most =>
      if least = 0 && most = 1 then optional body
      else if least = most then copies body least
      else bounded body least most

private def oneOf (bodies : List (Build Fragment)) : Build Fragment :=
  match bodies with
  | [] => pass
  | [body] => body
  | first :: second :: rest => do
      let f ← first
      let g ← second
      let fork ← addState (.split [])
      let stop ← addState (.pass 0)
      let add (h : Fragment) : Build Unit := do
        connect fork h.start
        connect h.stop stop
      add f
      add g
      rest.forM fun body => do add (← body)
      pure ⟨fork, stop⟩

private def literal? : Pattern → Option (List Char)
  | .literal text => some text
  | _ => none

mutual

/-- The fragment of a pattern. What captures is marked when reading forwards. -/
private def ofPart (back : Bool) : Pattern → Build Fragment
  | .empty => pass
  | .literal text => ofText back text
  | .chars set _ => ofSet back set
  | .boundary b => do
      let id ← addState (.check b 0)
      pure ⟨id, id⟩
  | .repeated body least most _ =>
      repetition (ofPart back body) (body.minLength.any (0 < ·)) least most
  | .capture _ body =>
      if back then ofPart back body
      else chain [pass, ofPart back body, pass]
  | .sequence parts =>
      let bodies := ofParts back parts
      chain (if back then bodies.reverse else bodies)
  | .choice branches =>
      match branches.mapM literal? with
      | some words =>
          let words := words.map textBytes
          ofWords (if back then words.map List.reverse else words)
      | none => oneOf (ofParts back branches)

private def ofParts (back : Bool) : List Pattern → List (Build Fragment)
  | [] => []
  | p :: rest => ofPart back p :: ofParts back rest

end

/-- Any bytes before a match, which there cannot be if each match starts with the text. -/
private def lead (anchored : Bool) : Build Fragment :=
  if anchored then pass
  else
    loop do
      let stop ← addState (.pass 0)
      pure ⟨← addState (.bytes [⟨0, 255, stop⟩]), stop⟩

/-- The automaton of a pattern in one direction, with bytes before the match. -/
private def build (back : Bool) (p : Pattern) : Build Fragment := do
  let anchored := if back then p.endsWith .textEnd else p.startsWith .textStart
  let before ← lead anchored
  let f ← if back then ofPart back p else chain [pass, ofPart back p, pass]
  let stop ← addState .accept
  connect f.stop stop
  connect before.stop f.start
  pure ⟨f.start, stop⟩

def ofPattern (p : Pattern) : Except PatternError Automaton := do
  let (f, built) ← build false p {}
  let _ ← build true p {}
  .ok ⟨built.states, f.start, built.listed⟩

end SecretFlow.Automaton

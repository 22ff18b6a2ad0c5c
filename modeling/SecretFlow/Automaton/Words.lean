import SecretFlow.Automaton.Basic

set_option autoImplicit false
set_option relaxedAutoImplicit false

/-!
Fragments for a choice among words, which share the states for what words start with alike. A
word that ends where others go on parts them: words before it and words after it share nothing,
so that earlier words keep their rank.
-/

namespace SecretFlow.Automaton

abbrev Words := List (List UInt8)

/-- Words in parts, between those that end here. Several that end here at the start count once. -/
private def partsAtEnds (words : Words) : List Words :=
  let rest := words.dropWhile List.isEmpty
  (if rest.length < words.length then [] :: rest else rest).splitOn []

private def firstBytes (words : Words) : List UInt8 :=
  ((words.filterMap List.head?).mergeSort (· ≤ ·)).eraseDups

private def after (b : UInt8) (words : Words) : Words :=
  words.filterMap fun
    | c :: rest => if c = b then some rest else none
    | [] => none

mutual

/-- A state that leads to the states for words, which are no longer than the given room. -/
private def wordState (stop : Nat) : Nat → Words → Build Nat
  | 0, _ => addState (.split [])
  | room + 1, words => do
      let targets ← partTargets stop room (partsAtEnds words)
      addState (.split targets)

/-- The targets for the parts of words. After each part but the last a word ends. -/
private def partTargets (stop : Nat) (room : Nat) (parts : List Words) : Build (List Nat) :=
  match parts with
  | [] => pure []
  | part :: rest => do
      let arrows ← byteArrows stop room part (firstBytes part)
      let own ← match arrows with
        | [] => pure []
        | [arrow] => do pure [← addState (.byte arrow)]
        | arrows => do pure [← addState (.bytes arrows)]
      let others ← partTargets stop room rest
      pure (own ++ (if rest.isEmpty then [] else [stop]) ++ others)

private def byteArrows (stop : Nat) (room : Nat) (words : Words) (bs : List UInt8) :
    Build (List Arrow) :=
  match bs with
  | [] => pure []
  | b :: more => do
      let rest := after b words
      let target ← if rest.all List.isEmpty then pure stop else wordState stop room rest
      let arrows ← byteArrows stop room words more
      pure (⟨b, b, target⟩ :: arrows)

end

def ofWords (words : Words) : Build Fragment := do
  let stop ← addState (.pass 0)
  let room := words.foldl (fun n w => max n w.length) 0
  let start ← wordState stop (room + 1) words
  pure ⟨start, stop⟩

end SecretFlow.Automaton

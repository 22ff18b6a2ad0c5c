import Mathlib.Algebra.Group.Nat.Even
import Mathlib.Data.List.Perm.Subperm
import SecretFlow.Proofs.VariableReferences

set_option autoImplicit false
set_option relaxedAutoImplicit false

/-!
References in container arguments. When a container starts, two dollar signs in a row are read as
one that is escaped, so a name in parentheses is a reference if the number of dollar signs before it
is odd. The search for references takes a name only if there is a single one, and misses those after
three or five.
-/

namespace SecretFlow.Shell

/-! ### Names in parentheses -/

def Parenthesises (name after : List Char) : Prop :=
  IsIdentifier name ∧ ∃ rest, after = '(' :: (name ++ ')' :: rest)

private theorem leadingName_closed {name : List Char} (identifier : IsIdentifier name)
    (rest : List Char) : leadingName (name ++ ')' :: rest) = name := by
  refine (leadingName_append_iff (isName_iff.mpr identifier) _).mpr ?_
  rintro c ⟨⟩
  decide

private theorem parenthesised?_eq_some_iff {name after : List Char} {width : Nat} :
    parenthesised? after = some (name, width) ↔ Parenthesises name after ∧ width = name.length + 2 := by
  constructor
  · intro found
    unfold parenthesised? at found
    split at found
    · rename_i rest
      dsimp only at found
      split at found
      · rename_i closed
        obtain ⟨rfl, rfl⟩ := Prod.mk.inj (Option.some.inj found)
        simp only [Bool.and_eq_true, Bool.not_eq_true', List.isEmpty_eq_false_iff,
          decide_eq_true_eq] at closed
        obtain ⟨nonempty, closing⟩ := closed
        obtain ⟨beyond, hbeyond⟩ := List.head?_eq_some_iff.mp closing
        have parts := List.prefix_iff_eq_append.mp (isPrefix_leadingName rest)
        rw [hbeyond] at parts
        exact ⟨⟨isName_iff.mp (isName_leadingName nonempty), beyond, by rw [parts]⟩, rfl⟩
      · cases found
    · cases found
  · rintro ⟨⟨identifier, rest, rfl⟩, rfl⟩
    have nonempty : name.isEmpty = false := by
      obtain ⟨first, more, rfl, -⟩ := identifier
      rfl
    simp [parenthesised?, leadingName_closed identifier, nonempty]

private theorem parenthesises_iff {name after : List Char} :
    Parenthesises name after ↔ (parenthesised? after).map Prod.fst = some name := by
  rw [Option.map_eq_some_iff]
  constructor
  · intro spells
    exact ⟨(name, _), parenthesised?_eq_some_iff.mpr ⟨spells, rfl⟩, rfl⟩
  · rintro ⟨⟨found, width⟩, read, rfl⟩
    exact (parenthesised?_eq_some_iff.mp read).1

private theorem read_drop_of_parenthesised? {β : Type} {read : List Char → β}
    (passes : ∀ c rest, c ≠ '$' → read (c :: rest) = read rest) {name after : List Char} {width : Nat}
    (found : parenthesised? after = some (name, width)) : read (after.drop width) = read after := by
  -- a name in parentheses has no dollar sign, so a reading that passes over other characters goes
  -- on after it
  obtain ⟨⟨identifier, rest, rfl⟩, rfl⟩ := parenthesised?_eq_some_iff.mp found
  have dollars : '$' ∉ '(' :: (name ++ [')']) := by
    intro dollar
    have letter : '$' ∈ name := by simpa using dollar
    rw [← leadingName_closed identifier rest] at letter
    have named := isNameChar_of_mem_leadingName letter
    revert named
    decide
  have parts : '(' :: (name ++ ')' :: rest) = '(' :: (name ++ [')']) ++ rest := by simp
  rw [parts, read_append_of_silent passes dollars, List.drop_left' (by simp)]

/-! ### The search -/

/-- The number of dollar signs at the end of a text that comes after some others. -/
def dollarsAfter (others : Nat) (text : List Char) : Nat :=
  text.foldl (fun n c => if c = '$' then n + 1 else 0) others

private theorem argumentReferences_of_ne {c : Char} (other : c ≠ '$') (afterDollar : Bool)
    (rest : List Char) :
    argumentReferences afterDollar (c :: rest) = argumentReferences false rest := by
  rw [argumentReferences, if_neg other]

private theorem argumentReferences_dollar (afterDollar : Bool) (rest : List Char) :
    argumentReferences afterDollar ('$' :: rest) =
      (if afterDollar then [] else ((parenthesised? rest).map Prod.fst).toList) ++
        argumentReferences true rest := by
  -- A dollar sign refers to a name if it is the first one. There is none inside the name, so it
  -- need not be passed over.
  rw [argumentReferences, if_pos rfl]
  cases found : parenthesised? rest with
  | none => simp
  | some reference =>
    obtain ⟨name, width⟩ := reference
    have passes (c : Char) (beyond : List Char) (other : c ≠ '$') :
        argumentReferences false (c :: beyond) = argumentReferences false beyond :=
      argumentReferences_of_ne other false beyond
    have passed : argumentReferences true rest = argumentReferences false (rest.drop width) := by
      rw [read_drop_of_parenthesised? passes found]
      obtain ⟨⟨-, beyond, rfl⟩, -⟩ := parenthesised?_eq_some_iff.mp found
      rw [argumentReferences_of_ne (by decide), argumentReferences_of_ne (by decide)]
    rw [passed]
    cases afterDollar <;> rfl

private theorem enumerates_argumentReferences (others : Nat) (text : List Char) :
    Enumerates (DollarAt (fun before => dollarsAfter others before = 0) Parenthesises text)
      (argumentReferences (decide (others ≠ 0)) text) := by
  induction text generalizing others with
  | nil =>
    rw [argumentReferences]
    exact .nil fun place name => not_dollarAt_nil
  | cons c rest ih =>
    by_cases dollar : c = '$'
    · subst dollar
      rw [argumentReferences_dollar]
      have later := ih (others + 1)
      rw [decide_eq_true (Nat.succ_ne_zero others)] at later
      by_cases none : others = 0
      · subst none
        exact Enumerates.takeFirst later rfl fun name => parenthesises_iff
      · rw [if_pos (decide_eq_true none)]
        exact Enumerates.passFirst later fun name here => none here.2.1
    · rw [argumentReferences_of_ne dollar]
      refine Enumerates.passFirst ?_ fun name here => dollar here.1
      have later := ih 0
      simp only [dollarsAfter, List.foldl_cons, if_neg dollar] at later ⊢
      exact later

/-! ### Expansion -/

/-- Names that an argument refers to when it is expanded, in order and with repeats. Two dollar
signs in a row are an escaped one. -/
def expandedReferences : List Char → List (List Char)
  | [] => []
  | c :: rest =>
      if c = '$' then
        if rest.head? = some '$' then expandedReferences (rest.drop 1)
        else
          match parenthesised? rest with
          | some (name, width) => name :: expandedReferences (rest.drop width)
          | none => expandedReferences rest
      else expandedReferences rest
termination_by s => s.length
decreasing_by all_goals (simp only [List.length_cons, List.length_drop]; omega)

def expandedVariables (text : String) : List String :=
  ((expandedReferences text.toList).map String.ofList).eraseDups

private theorem expandedReferences_of_ne {c : Char} (other : c ≠ '$') (rest : List Char) :
    expandedReferences (c :: rest) = expandedReferences rest := by
  rw [expandedReferences, if_neg other]

private theorem expandedReferences_pair (rest : List Char) :
    expandedReferences ('$' :: '$' :: rest) = expandedReferences rest := by
  rw [expandedReferences, if_pos rfl]
  rfl

private theorem expandedReferences_dollar {rest : List Char} (alone : rest.head? ≠ some '$') :
    expandedReferences ('$' :: rest) =
      ((parenthesised? rest).map Prod.fst).toList ++ expandedReferences rest := by
  rw [expandedReferences, if_pos rfl, if_neg alone]
  cases found : parenthesised? rest with
  | none => rfl
  | some reference =>
    obtain ⟨name, width⟩ := reference
    have passes (c : Char) (beyond : List Char) (other : c ≠ '$') :=
      expandedReferences_of_ne other beyond
    rw [← read_drop_of_parenthesised? passes found]
    rfl

/-- Dollar signs are taken in pairs from the first one on. So those before a text are all taken
where the reading of it starts, or the text starts with another character and their number does not
matter. -/
private theorem enumerates_expandedReferences (others : Nat) (text : List Char)
    (paired : Even others ∨ text.head? ≠ some '$') :
    Enumerates (DollarAt (fun before => Even (dollarsAfter others before)) Parenthesises text)
      (expandedReferences text) := by
  induction hn : text.length using Nat.strong_induction_on generalizing others text with
  | _ n ih =>
    subst hn
    cases text with
    | nil =>
      rw [expandedReferences]
      exact .nil fun place name => not_dollarAt_nil
    | cons c rest =>
      have shorter : rest.length < (c :: rest).length := Nat.lt_succ_self _
      by_cases dollar : c = '$'
      · subst dollar
        have even : Even others := paired.resolve_right (not_not.mpr rfl)
        by_cases alone : rest.head? = some '$'
        · obtain ⟨rest, rfl⟩ := List.head?_eq_some_iff.mp alone
          rw [expandedReferences_pair]
          have odd : ¬ Even (others + 1) := fun again => Nat.even_add_one.mp again even
          have later := ih rest.length (Nat.lt_succ_of_lt (Nat.lt_succ_self _)) _ _
            (.inl (Nat.even_add_one.mpr odd)) rfl
          refine Enumerates.passFirst ?_ ?_
          · exact Enumerates.passFirst later fun name here => odd here.2.1
          · rintro name ⟨-, -, -, rest, starts⟩
            simp at starts
        · rw [expandedReferences_dollar alone]
          have later := ih rest.length shorter (others + 1) rest (.inr alone) rfl
          exact Enumerates.takeFirst later even fun name => parenthesises_iff
      · rw [expandedReferences_of_ne dollar]
        refine Enumerates.passFirst ?_ fun name here => dollar here.1
        have later := ih rest.length shorter 0 rest (.inl (Nat.even_iff.mpr (Nat.zero_mod 2))) rfl
        simp only [dollarsAfter, List.foldl_cons, if_neg dollar] at later ⊢
        exact later

/-! ### The two readings -/

private theorem Enumerates.eq_iff {α : Type} {appears more : Nat → α → Prop} {found names : List α}
    (fewer : Enumerates appears found) (all : Enumerates more names)
    (among : ∀ place name, appears place name → more place name) :
    found = names ↔ ∀ place name, more place name → appears place name := by
  obtain ⟨places, rfl, ordered, mem_iff⟩ := fewer
  obtain ⟨others, rfl, ordered', mem_iff'⟩ := all
  have apart {ps : List (Nat × α)} (less : ps.Pairwise fun p q => p.1 < q.1) : ps.Nodup :=
    less.imp fun {p q} lt same => absurd (congrArg Prod.fst same) (Nat.ne_of_lt lt)
  have within : places ⊆ others := by
    rintro ⟨place, name⟩ there
    exact (mem_iff' place name).mpr (among place name ((mem_iff place name).mp there))
  constructor
  · intro same place name there
    have lengths : others.length ≤ places.length := by
      have equal := congrArg List.length same
      rw [List.length_map, List.length_map] at equal
      exact equal.ge
    have perm : places.Perm others :=
      (List.subperm_of_subset (apart ordered) within).perm_of_length_le lengths
    rw [← mem_iff]
    exact perm.mem_iff.mpr ((mem_iff' place name).mpr there)
  · intro none
    have perm : places.Perm others := by
      rw [List.perm_ext_iff_of_nodup (apart ordered) (apart ordered')]
      rintro ⟨place, name⟩
      rw [mem_iff, mem_iff']
      exact ⟨among place name, none place name⟩
    have equal : places = others := by
      refine perm.eq_of_pairwise ?_ ordered ordered'
      intro p q _ _ less more
      omega
    rw [equal]

/-- The variables of an argument are the names in parentheses after a single dollar sign, those to
which it refers when it is expanded are the names after an odd number of them, each once and in the
order of their first places. So nothing is made up, and the two readings find the same references
exactly if no name comes after an odd number of three or more dollar signs. -/
theorem argumentVariables_after_single_dollar (text : String) :
    (∀ names, names = argumentVariables text ↔
      FirstAppearances (fun place name =>
        DollarAt (fun before => dollarsAfter 0 before = 0) Parenthesises text.toList place name.toList)
        names) ∧
    (∀ names, names = expandedVariables text ↔
      FirstAppearances (fun place name =>
        DollarAt (fun before => Even (dollarsAfter 0 before)) Parenthesises text.toList place
          name.toList) names) ∧
    argumentVariables text ⊆ expandedVariables text ∧
    (argumentReferences false text.toList = expandedReferences text.toList ↔
      ∀ before after name, text.toList = before ++ '$' :: after → Parenthesises name after →
        Even (dollarsAfter 0 before) → dollarsAfter 0 before = 0) := by
  have single := enumerates_argumentReferences 0 text.toList
  have odd := enumerates_expandedReferences 0 text.toList (.inl (Nat.even_iff.mpr (Nat.zero_mod 2)))
  have among (place : Nat) (name : List Char) :
      DollarAt (fun before => dollarsAfter 0 before = 0) Parenthesises text.toList place name →
        DollarAt (fun before => Even (dollarsAfter 0 before)) Parenthesises text.toList place name := by
    rintro ⟨before, after, parts, here, none, spells⟩
    exact ⟨before, after, parts, here, Nat.even_iff.mpr (by rw [none]), spells⟩
  have found := single.toStrings.firstAppearances
  have expanded := odd.toStrings.firstAppearances
  refine ⟨fun names => found.eq_iff, fun names => expanded.eq_iff, ?_, ?_⟩
  · intro name hname
    obtain ⟨place, there⟩ := (found.mem_iff name).mp hname
    exact (expanded.mem_iff name).mpr ⟨place, among place _ there⟩
  · refine (single.eq_iff odd among).trans ?_
    constructor
    · intro none before after name parts spells even
      obtain ⟨b, a, parts', here, zero, -⟩ :=
        none before.length name ⟨before, after, parts, rfl, even, spells⟩
      obtain ⟨rfl, -⟩ := List.append_inj (parts.symm.trans parts') here.symm
      exact zero
    · rintro none place name ⟨before, after, parts, here, even, spells⟩
      exact ⟨before, after, parts, here, none before after name parts spells even, spells⟩

/-- Of three dollar signs two are an escaped one and the third refers to the name, which is missed.
-/
theorem reference_after_three_dollars_missed :
    argumentVariables "$$$(DB_PASS)" = [] ∧ expandedVariables "$$$(DB_PASS)" = ["DB_PASS"] := by
  decide +kernel

end SecretFlow.Shell

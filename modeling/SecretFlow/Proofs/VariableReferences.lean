import SecretFlow.Proofs.HereOperators
import SecretFlow.Proofs.QuotedPlaces

set_option autoImplicit false
set_option relaxedAutoImplicit false

/-!
The variables of a text are its references. A reference is a dollar sign with a name after it,
perhaps behind a brace; under quoting it counts where the dollar sign is neither escaped nor between
single quotes. The search jumps over escaped characters and over the names it finds, but no dollar
sign that counts is among them.
-/

namespace SecretFlow.Shell

/-! ### First appearances -/

section Appearances

variable {α : Type} {appears later : Nat → α → Prop}

/-- The names that appear at the places of a text, each once, in the order of their first places. -/
structure FirstAppearances (appears : Nat → α → Prop) (names : List α) : Prop where
  nodup : names.Nodup
  mem_iff : ∀ name, name ∈ names ↔ ∃ place, appears place name
  ordered : names.Pairwise fun a b => ∃ place, appears place a ∧ ∀ other, appears other b → place < other

private theorem FirstAppearances.unique {names others : List α}
    (first : FirstAppearances appears names)
    (again : FirstAppearances appears others) : names = others := by
  have same : names.Perm others := by
    rw [List.perm_ext_iff_of_nodup first.nodup again.nodup]
    intro a
    rw [first.mem_iff, again.mem_iff]
  refine same.eq_of_pairwise ?_ first.ordered again.ordered
  rintro a b - - ⟨i, ha, before⟩ ⟨j, hb, after⟩
  have less := before j hb
  have more := after i ha
  omega

theorem FirstAppearances.eq_iff {names others : List α} (first : FirstAppearances appears names) :
    others = names ↔ FirstAppearances appears others := by
  refine ⟨?_, fun again => again.unique first⟩
  rintro rfl
  exact first

def Enumerates (appears : Nat → α → Prop) (found : List α) : Prop :=
  ∃ places : List (Nat × α), places.map Prod.snd = found ∧
    places.Pairwise (fun p q => p.1 < q.1) ∧ ∀ place name, (place, name) ∈ places ↔ appears place name

theorem Enumerates.nil (none : ∀ place name, ¬ appears place name) : Enumerates appears [] :=
  ⟨[], rfl, .nil, fun place name => by simp [none]⟩

private theorem Enumerates.pass {found : List α} (all : Enumerates later found) (passed : Nat)
    (moved : ∀ place name, appears place name ↔ ∃ i, place = passed + i ∧ later i name) :
    Enumerates appears found := by
  obtain ⟨places, rfl, ordered, mem_iff⟩ := all
  refine ⟨places.map fun p => (passed + p.1, p.2), by simp, ?_, ?_⟩
  · rw [List.pairwise_map]
    exact ordered.imp fun less => Nat.add_lt_add_left less passed
  · intro place name
    rw [moved, List.mem_map]
    constructor
    · rintro ⟨⟨i, a⟩, there, same⟩
      obtain ⟨rfl, rfl⟩ := Prod.mk.inj same
      exact ⟨i, rfl, (mem_iff i a).mp there⟩
    · rintro ⟨i, rfl, there⟩
      exact ⟨(i, name), (mem_iff i name).mpr there, rfl⟩

private theorem Enumerates.cons {found : List α} {first : α} (all : Enumerates later found)
    (apart : ∀ name, ¬ later 0 name)
    (here : ∀ place name, appears place name ↔ place = 0 ∧ name = first ∨ later place name) :
    Enumerates appears (first :: found) := by
  obtain ⟨places, rfl, ordered, mem_iff⟩ := all
  refine ⟨(0, first) :: places, rfl, ?_, ?_⟩
  · refine List.pairwise_cons.mpr ⟨?_, ordered⟩
    rintro ⟨place, name⟩ there
    refine Nat.pos_of_ne_zero ?_
    rintro rfl
    exact apart name ((mem_iff 0 name).mp there)
  · intro place name
    rw [here, List.mem_cons, mem_iff, Prod.mk.injEq]

theorem Enumerates.toStrings {appears : Nat → List Char → Prop} {found : List (List Char)}
    (all : Enumerates appears found) :
    Enumerates (fun place name => appears place name.toList) (found.map String.ofList) := by
  obtain ⟨places, rfl, ordered, mem_iff⟩ := all
  refine ⟨places.map fun p => (p.1, String.ofList p.2), by simp, ?_, ?_⟩
  · rw [List.pairwise_map]
    exact ordered
  · intro place name
    show _ ↔ appears place name.toList
    rw [← mem_iff, List.mem_map]
    constructor
    · rintro ⟨⟨i, letters⟩, there, same⟩
      obtain ⟨rfl, rfl⟩ := Prod.mk.inj same
      rwa [String.toList_ofList]
    · intro there
      exact ⟨(place, name.toList), there, by rw [String.ofList_toList]⟩

theorem Enumerates.firstAppearances [BEq α] [LawfulBEq α] {found : List α}
    (all : Enumerates appears found) : FirstAppearances appears found.eraseDups := by
  obtain ⟨places, rfl, ordered, mem_iff⟩ := all
  suffices first : ∀ places : List (Nat × α), places.Pairwise (fun p q => p.1 < q.1) →
      FirstAppearances (fun place name => (place, name) ∈ places) (places.map Prod.snd).eraseDups by
    have same : (fun place name => (place, name) ∈ places) = appears := by
      funext place name
      exact propext (mem_iff place name)
    exact same ▸ first places ordered
  intro places ordered
  induction hn : places.length using Nat.strong_induction_on generalizing places with
  | _ n ih =>
    subst hn
    cases places with
    | nil => exact ⟨by simp, by simp, by simp⟩
    | cons p rest =>
      obtain ⟨place, name⟩ := p
      obtain ⟨before, ordered⟩ := List.pairwise_cons.mp ordered
      -- the places of the other names are those of the rest in which the first name is left out
      let others := rest.filter fun q => !q.2 == name
      have shorter : others.length < ((place, name) :: rest).length :=
        Nat.lt_succ_of_le (List.length_filter_le _ _)
      have first := ih _ shorter others (ordered.filter _) rfl
      have erased : (((place, name) :: rest).map Prod.snd).eraseDups =
          name :: (others.map Prod.snd).eraseDups := by
        rw [List.map_cons, List.eraseDups_cons, List.filter_map]
        rfl
      have mem_others {i : Nat} {a : α} : (i, a) ∈ others ↔ (i, a) ∈ rest ∧ a ≠ name := by
        simp [others]
      rw [erased]
      refine ⟨?_, ?_, ?_⟩
      · refine List.nodup_cons.mpr ⟨?_, first.nodup⟩
        intro again
        obtain ⟨i, there⟩ := (first.mem_iff name).mp again
        exact (mem_others.mp there).2 rfl
      · intro a
        rw [List.mem_cons, first.mem_iff]
        by_cases same : a = name
        · subst same
          exact ⟨fun _ => ⟨place, List.mem_cons_self⟩, fun _ => .inl rfl⟩
        · simp [mem_others, same]
      · refine List.pairwise_cons.mpr ⟨?_, ?_⟩
        · intro b hb
          obtain ⟨j, there⟩ := (first.mem_iff b).mp hb
          refine ⟨place, List.mem_cons_self, ?_⟩
          intro other among
          rcases List.mem_cons.mp among with same | among
          · exact absurd (Prod.mk.inj same).2 (mem_others.mp there).2
          · exact before _ among
        · refine first.ordered.imp_of_mem ?_
          rintro a b - hb ⟨i, there, less⟩
          refine ⟨i, List.mem_cons_of_mem _ (mem_others.mp there).1, ?_⟩
          intro other among
          obtain ⟨j, other_name⟩ := (first.mem_iff b).mp hb
          have apart : b ≠ name := (mem_others.mp other_name).2
          rcases List.mem_cons.mp among with same | among
          · exact absurd (Prod.mk.inj same).2 apart
          · exact less other (mem_others.mpr ⟨among, apart⟩)

end Appearances

/-! ### Dollar signs and names -/

/-- A name of a variable: a letter or an underscore, and then letters, digits and underscores. -/
def IsIdentifier (name : List Char) : Prop :=
  ∃ first more, name = first :: more ∧ isNameStart first = true ∧ ∀ c ∈ more, isNameChar c = true

theorem isName_iff {name : List Char} : isName name = true ↔ IsIdentifier name := by
  constructor
  · exact exists_of_isName
  · rintro ⟨first, more, rfl, start, letters⟩
    simp [isName, leadingName, start, List.takeWhile_eq_self_iff.mpr letters]

/-- A text starts with the longest name that can be read there. -/
def StartsName (name text : List Char) : Prop :=
  IsIdentifier name ∧ ∃ rest, text = name ++ rest ∧ ∀ c, rest.head? = some c → isNameChar c = false

private theorem startsName_iff {name text : List Char} :
    StartsName name text ↔ leadingName text = name ∧ name ≠ [] := by
  constructor
  · rintro ⟨identifier, rest, rfl, ends⟩
    refine ⟨(leadingName_append_iff (isName_iff.mpr identifier) rest).mpr ends, ?_⟩
    obtain ⟨first, more, rfl, -⟩ := identifier
    exact List.cons_ne_nil _ _
  · rintro ⟨rfl, nonempty⟩
    have named := isName_leadingName nonempty
    have parts := List.prefix_iff_eq_append.mp (isPrefix_leadingName text)
    refine ⟨isName_iff.mp named, _, parts.symm, ?_⟩
    rw [← leadingName_append_iff named, parts]

/-- What follows a dollar sign refers to a name, perhaps behind a brace. -/
def RefersTo (name after : List Char) : Prop :=
  StartsName name after ∨ ∃ inside, after = '{' :: inside ∧ StartsName name inside

private theorem refersTo_iff {name after : List Char} :
    RefersTo name after ↔ (reference? after).map Prod.fst = some name := by
  have found (t : List Char) (width : Nat) :
      ((if (leadingName t).isEmpty then none else some (leadingName t, width)).map Prod.fst =
        some name) ↔ StartsName name t := by
    rw [startsName_iff]
    by_cases empty : leadingName t = []
    · simp only [empty, List.isEmpty_nil, if_true, Option.map_none, reduceCtorEq, false_iff]
      rintro ⟨rfl, nonempty⟩
      exact nonempty rfl
    · simp only [List.isEmpty_iff, empty, if_false, Option.map_some, Option.some.injEq]
      constructor
      · rintro rfl
        exact ⟨rfl, empty⟩
      · exact And.left
  rcases braced_or_bare after with ⟨t, rfl⟩ | bare
  · have none : ¬ StartsName name ('{' :: t) := by
      rw [startsName_iff]
      rintro ⟨rfl, nonempty⟩
      exact nonempty rfl
    rw [reference?_braced, found]
    simp [RefersTo, none]
  · rw [reference?_bare bare, found]
    refine ⟨?_, .inl⟩
    rintro (starts | ⟨inside, rfl, -⟩)
    · exact starts
    · exact absurd rfl bare

/-- A dollar sign at a place of a text, the text before it being as required, and a name spelt after
it. -/
def DollarAt (counts : List Char → Prop) (spelt : List Char → List Char → Prop) (text : List Char)
    (place : Nat) (name : List Char) : Prop :=
  ∃ before after, text = before ++ '$' :: after ∧ before.length = place ∧ counts before ∧
    spelt name after

section Dollars

variable {counts : List Char → Prop} {spelt : List Char → List Char → Prop}

theorem not_dollarAt_nil {place : Nat} {name : List Char} :
    ¬ DollarAt counts spelt [] place name := by
  rintro ⟨before, after, parts, -⟩
  simp at parts

private theorem dollarAt_cons_iff {c : Char} {rest : List Char} {place : Nat} {name : List Char} :
    DollarAt counts spelt (c :: rest) place name ↔
      (place = 0 ∧ c = '$' ∧ counts [] ∧ spelt name rest) ∨
      ∃ i, place = 1 + i ∧ DollarAt (fun before => counts (c :: before)) spelt rest i name := by
  constructor
  · rintro ⟨before, after, parts, rfl, counted, spells⟩
    cases before with
    | nil =>
      obtain ⟨rfl, rfl⟩ := List.cons.inj parts
      exact .inl ⟨rfl, rfl, counted, spells⟩
    | cons d before =>
      obtain ⟨rfl, rfl⟩ := List.cons.inj parts
      exact .inr ⟨before.length, Nat.add_comm _ _, before, after, rfl, rfl, counted, spells⟩
  · rintro (⟨rfl, rfl, counted, spells⟩ | ⟨i, rfl, before, after, rfl, rfl, counted, spells⟩)
    · exact ⟨[], rest, rfl, rfl, counted, spells⟩
    · exact ⟨c :: before, after, rfl, Nat.add_comm _ _, counted, spells⟩

theorem Enumerates.passFirst {c : Char} {rest : List Char} {found : List (List Char)}
    (all : Enumerates (DollarAt (fun before => counts (c :: before)) spelt rest) found)
    (none : ∀ name, ¬ (c = '$' ∧ counts [] ∧ spelt name rest)) :
    Enumerates (DollarAt counts spelt (c :: rest)) found := by
  refine all.pass 1 ?_
  intro place name
  rw [dollarAt_cons_iff, or_iff_right]
  rintro ⟨-, here⟩
  exact none name here

theorem Enumerates.takeFirst {rest : List Char} {name? : Option (List Char)}
    {found : List (List Char)}
    (all : Enumerates (DollarAt (fun before => counts ('$' :: before)) spelt rest) found)
    (counted : counts []) (spells : ∀ name, spelt name rest ↔ name? = some name) :
    Enumerates (DollarAt counts spelt ('$' :: rest)) (name?.toList ++ found) := by
  cases name? with
  | none =>
    refine all.passFirst ?_
    rintro name ⟨-, -, here⟩
    cases (spells name).mp here
  | some first =>
    refine (all.pass 1 fun place name => Iff.rfl).cons ?_ ?_
    · rintro name ⟨i, same, -⟩
      omega
    · intro place name
      rw [dollarAt_cons_iff, spells, Option.some.injEq, eq_comm (a := first)]
      simp [counted]

end Dollars

theorem read_append_of_silent {β : Type} {read : List Char → β}
    (passes : ∀ c rest, c ≠ '$' → read (c :: rest) = read rest) {silent : List Char}
    (dollars : '$' ∉ silent) (rest : List Char) : read (silent ++ rest) = read rest := by
  induction silent with
  | nil => rfl
  | cons c silent ih =>
    have first : c ≠ '$' := fun same => dollars (same ▸ List.mem_cons_self)
    rw [List.cons_append, passes c _ first]
    exact ih fun later => dollars (List.mem_cons_of_mem _ later)

/-! ### References of a text -/

private theorem enumerates_liveReferences (q : Quoting) (text : List Char) :
    Enumerates (DollarAt (fun before => (before.foldl Standing.next q.standing).IsLive) RefersTo text)
      (liveReferences q text) := by
  induction q, text using Quoting.reading with
  | nil q =>
    rw [liveReferences]
    exact .nil fun place name => not_dollarAt_nil
  | escaped q c rest escapes ih =>
    rw [liveReferences_of_escapes _ escapes]
    have backslash : ∀ name, ¬ (c = '$' ∧ q.standing.IsLive ∧ RefersTo name rest) := by
      rintro name ⟨rfl, -⟩
      cases escapes
    refine Enumerates.passFirst ?_ backslash
    simp only [List.foldl_cons, Quoting.next_of_escapes escapes]
    cases rest with
    | nil =>
      rw [List.drop_nil, liveReferences]
      exact .nil fun place name => not_dollarAt_nil
    | cons d rest =>
      refine Enumerates.passFirst ?_ fun name here => q.not_isLive_escaped here.2.1
      simp only [List.foldl_cons, Quoting.next_escaped]
      exact ih
  | plain q c rest plain ih =>
    rw [liveReferences_cons _ plain]
    have later : Enumerates (DollarAt
        (fun before => ((c :: before).foldl Standing.next q.standing).IsLive) RefersTo rest)
        (liveReferences (q.after c) rest) := by
      simp only [List.foldl_cons, Quoting.next_of_plain plain]
      exact ih
    rw [namesAt]
    split
    · rename_i dollar
      simp only [Bool.and_eq_true, decide_eq_true_eq] at dollar
      obtain ⟨rfl, expands⟩ := dollar
      exact later.takeFirst (q.isLive_standing.mpr expands) fun name => refersTo_iff
    · rename_i other
      refine later.passFirst ?_
      rintro name ⟨rfl, live, -⟩
      exact other (by simpa using q.isLive_standing.mp live)

private theorem allReferences_cons (c : Char) (rest : List Char) : allReferences (c :: rest) =
    (if c = '$' then ((reference? rest).map Prod.fst).toList else []) ++ allReferences rest := by
  have passes (d : Char) (beyond : List Char) (other : d ≠ '$') :
      allReferences (d :: beyond) = allReferences beyond := by
    rw [allReferences, if_neg other]
  rw [allReferences]
  split
  · split
    · rename_i name width found
      have dollars : '$' ∉ rest.take width := by
        intro dollar
        have spells := spellsReference_of_reference? found '$' dollar
        revert spells
        decide
      have passed := read_append_of_silent passes dollars (rest.drop width)
      rw [List.take_append_drop] at passed
      simp [found, passed]
    · rename_i none
      simp [none]
  · rfl

private theorem enumerates_allReferences (text : List Char) :
    Enumerates (DollarAt (fun _ => True) RefersTo text) (allReferences text) := by
  induction text with
  | nil =>
    rw [allReferences]
    exact .nil fun place name => not_dollarAt_nil
  | cons c rest ih =>
    rw [allReferences_cons]
    by_cases dollar : c = '$'
    · subst dollar
      rw [if_pos rfl]
      exact ih.takeFirst trivial fun name => refersTo_iff
    · rw [if_neg dollar]
      exact ih.passFirst fun name here => dollar here.1

/-- The variables of a text are the names its dollar signs refer to, each once and in the order of
their first places. Where quotes are honoured, only dollar signs count that are neither escaped nor
between single quotes, so these variables are among all. -/
theorem variableNames_are_references (text : String) :
    (∀ names, names = variableNames text true ↔
      FirstAppearances (fun place name =>
        DollarAt (fun before => (standing before).IsLive) RefersTo text.toList place name.toList)
        names) ∧
    (∀ names, names = variableNames text false ↔
      FirstAppearances (fun place name =>
        DollarAt (fun _ => True) RefersTo text.toList place name.toList) names) ∧
    variableNames text true ⊆ variableNames text false := by
  have live := (enumerates_liveReferences .bare text.toList).toStrings.firstAppearances
  have all := (enumerates_allReferences text.toList).toStrings.firstAppearances
  refine ⟨fun names => live.eq_iff, fun names => all.eq_iff, ?_⟩
  intro name found
  obtain ⟨place, before, after, parts, here, -, refers⟩ := (live.mem_iff name).mp found
  exact (all.mem_iff name).mpr ⟨place, before, after, parts, here, trivial, refers⟩

end SecretFlow.Shell

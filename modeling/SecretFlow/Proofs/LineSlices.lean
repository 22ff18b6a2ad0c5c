import SecretFlow.Proofs.LineParts

set_option autoImplicit false
set_option relaxedAutoImplicit false

/-!
Cutting the bytes of a line. All that matters for cutting is below 128, and no such byte is part of
a longer character. So the bytes of a line are cut where its characters are, also where a backslash
takes only the first byte of the character after it.
-/

namespace SecretFlow.Shell

/-- The bytes of a character, each as the character of its number. -/
def octetsOf (c : Char) : List Char :=
  (String.utf8EncodeChar c).map Char.ofUInt8

def octets (s : List Char) : List Char :=
  s.flatMap octetsOf

/-- A character, or a byte of one, that is none of the signs of the shell. -/
def IsForeign (c : Char) : Prop :=
  128 ≤ c.toNat

private theorem octets_cons (c : Char) (s : List Char) : octets (c :: s) = octetsOf c ++ octets s :=
  List.flatMap_cons

private theorem octets_singleton (c : Char) : octets [c] = octetsOf c :=
  List.flatMap_singleton _ _

private theorem octets_append (s t : List Char) : octets (s ++ t) = octets s ++ octets t :=
  List.flatMap_append

private theorem toNat_ofUInt8_ofNat {n : Nat} (small : n < 256) :
    (Char.ofUInt8 (UInt8.ofNat n)).toNat = n := by
  show (UInt8.ofNat n).toUInt32.toNat = n
  rw [UInt8.toNat_toUInt32, UInt8.toNat_ofNat_of_lt' small]

private theorem octetsOf_cases (c : Char) : octetsOf c = [c] ∨
    IsForeign c ∧ ∃ first more, octetsOf c = first :: more ∧ ∀ d ∈ first :: more, IsForeign d := by
  have foreign {n : Nat} (large : 128 ≤ n) (small : n < 256) :
      IsForeign (Char.ofUInt8 (UInt8.ofNat n)) := by
    rw [IsForeign, toNat_ofUInt8_ofNat small]
    exact large
  have value : c.val.toNat = c.toNat := rfl
  unfold octetsOf String.utf8EncodeChar
  dsimp only
  rw [value]
  split
  · rename_i ascii
    left
    rw [List.map_singleton, List.singleton_inj, ← Char.toNat_inj, toNat_ofUInt8_ofNat (by omega)]
  · rename_i large
    refine .inr ⟨Nat.lt_of_not_le large, ?_⟩
    split
    · refine ⟨_, _, rfl, ?_⟩
      simp only [List.map_cons, List.map_nil, List.forall_mem_cons]
      exact ⟨foreign (by omega) (by omega), foreign (by omega) (by omega), List.forall_mem_nil _⟩
    split
    · refine ⟨_, _, rfl, ?_⟩
      simp only [List.map_cons, List.map_nil, List.forall_mem_cons]
      exact ⟨foreign (by omega) (by omega), foreign (by omega) (by omega),
        foreign (by omega) (by omega), List.forall_mem_nil _⟩
    · refine ⟨_, _, rfl, ?_⟩
      simp only [List.map_cons, List.map_nil, List.forall_mem_cons]
      exact ⟨foreign (by omega) (by omega), foreign (by omega) (by omega),
        foreign (by omega) (by omega), foreign (by omega) (by omega), List.forall_mem_nil _⟩

private theorem IsForeign.ne {c d : Char} (foreign : IsForeign c) (sign : d.toNat < 128) :
    c ≠ d := by
  rintro rfl
  exact absurd foreign (Nat.not_le.mpr sign)

private theorem IsForeign.isIdle {c : Char} (foreign : IsForeign c) : isIdle c = true := by
  simp only [Shell.isIdle, ne_eq, Bool.and_eq_true, decide_eq_true_eq]
  exact ⟨⟨⟨foreign.ne (by decide), foreign.ne (by decide)⟩, foreign.ne (by decide)⟩,
    foreign.ne (by decide)⟩

private theorem IsForeign.separator? {c : Char} (foreign : IsForeign c) (q : Quoting)
    (before : Option Char) (rest : List Char) : separator? q before c rest = none := by
  have semicolon : c ≠ ';' := foreign.ne (by decide)
  have ampersand : c ≠ '&' := foreign.ne (by decide)
  have bar : c ≠ '|' := foreign.ne (by decide)
  simp [Shell.separator?, semicolon, ampersand, bar]

private theorem octetsOf_of_lt {c : Char} (sign : c.toNat < 128) : octetsOf c = [c] := by
  rcases octetsOf_cases c with same | ⟨foreign, -⟩
  · exact same
  · exact absurd sign (Nat.not_lt.mpr foreign)

private theorem head?_octets {sign : Char} (low : sign.toNat < 128) (s : List Char) :
    (octets s).head? = some sign ↔ s.head? = some sign := by
  cases s with
  | nil => simp [octets]
  | cons c s =>
    rw [octets_cons]
    rcases octetsOf_cases c with same | ⟨foreign, first, more, bytes, all⟩
    · simp [same]
    · have other : first ≠ sign := (all first List.mem_cons_self).ne low
      simp [bytes, other, foreign.ne low]

/-! ### Cutting bytes -/

/-- Two characters, if any, that are alike to an ampersand after them. -/
def SameBefore (b c : Option Char) : Prop :=
  (b = some '>' ↔ c = some '>') ∧ (b = some '<' ↔ c = some '<')

private theorem separator?_octets {b before : Option Char} (same : SameBefore b before)
    (q : Quoting) (c : Char)
    (rest : List Char) : separator? q b c (octets rest) = separator? q before c rest := by
  have above : (octets rest).head? = some '>' ↔ rest.head? = some '>' := head?_octets (by decide) rest
  have again : (octets rest).head? = some ';' ↔ rest.head? = some ';' := head?_octets (by decide) rest
  have twice (sign : c = '&' ∨ c = '|') : (octets rest).head? = some c ↔ rest.head? = some c :=
    head?_octets (by rcases sign with rfl | rfl <;> decide) rest
  unfold separator?
  simp only [ne_eq, same.1, same.2, above, again, Bool.or_eq_true, decide_eq_true_eq]
  split
  · rfl
  split
  · rfl
  split
  · rename_i sign
    simp only [twice sign]
  · rfl

namespace Parts

def map (f : List Char → List Char) (t : Parts) : Parts :=
  ⟨t.cuts.map fun p => (f p.1, f p.2), f t.last⟩

/-- Where the segments start and end, the text itself starting at the given place. -/
def slices (here : Nat) : Parts → List (Nat × Nat)
  | ⟨[], last⟩ => if last = [] then [] else [(here, here + last.length)]
  | ⟨(segment, separator) :: cuts, last⟩ =>
      (here, here + segment.length) ::
        slices (here + segment.length + separator.length) ⟨cuts, last⟩
termination_by t => t.cuts.length

private theorem map_after_octets (start : List Char) (t : Parts) :
    (t.after start).map octets = (t.map octets).after (octets start) := by
  obtain ⟨_ | ⟨⟨segment, separator⟩, cuts⟩, last⟩ := t
  · simp [after, map, octets_append]
  · simp [after, map, octets_append]

private theorem after_after (first second : List Char) (t : Parts) :
    (t.after second).after first = t.after (first ++ second) := by
  obtain ⟨_ | ⟨⟨segment, separator⟩, cuts⟩, last⟩ := t
  · simp [after]
  · simp [after]

private theorem after_nil (t : Parts) : t.after [] = t := by
  obtain ⟨_ | ⟨⟨segment, separator⟩, cuts⟩, last⟩ := t <;> rfl

end Parts

private theorem SameBefore.of_foreign {c : Char} (foreign : IsForeign c) :
    SameBefore (some c) none := by
  have above : c ≠ '>' := foreign.ne (by decide)
  have below : c ≠ '<' := foreign.ne (by decide)
  simp [SameBefore, above, below]

private theorem partsOf_foreign {bytes : List Char} (all : ∀ d ∈ bytes, IsForeign d)
    {b : Option Char} (free : bytes = [] → SameBefore b none) (q : Quoting) (rest : List Char) :
    ∃ b', SameBefore b' none ∧ partsOf b q (bytes ++ rest) = (partsOf b' q rest).after bytes := by
  induction bytes generalizing b with
  | nil => exact ⟨b, free rfl, by rw [Parts.after_nil, List.nil_append]⟩
  | cons d bytes ih =>
    have foreign : IsForeign d := all d List.mem_cons_self
    obtain ⟨b', hb', read⟩ := ih (fun e he => all e (List.mem_cons_of_mem _ he))
      (fun _ => SameBefore.of_foreign foreign)
    have passed : partsOf b q (d :: (bytes ++ rest)) =
        (partsOf (some d) q (bytes ++ rest)).after [d] := by
      rw [partsOf, q.escapes_of_isIdle foreign.isIdle, foreign.separator?,
        q.after_of_isIdle foreign.isIdle]
      rfl
    refine ⟨b', hb', ?_⟩
    rw [List.cons_append, passed, read, Parts.after_after]
    rfl

private theorem partsOf_octets {b before : Option Char} (same : SameBefore b before) (q : Quoting)
    (s : List Char) : partsOf b q (octets s) = (partsOf before q s).map octets := by
  have refl (b : Option Char) : SameBefore b b := ⟨Iff.rfl, Iff.rfl⟩
  have foreign_same {b : Option Char} {c : Char} (free : SameBefore b none) (foreign : IsForeign c) :
      SameBefore b (some c) :=
    ⟨free.1.trans (SameBefore.of_foreign foreign).1.symm,
      free.2.trans (SameBefore.of_foreign foreign).2.symm⟩
  fun_induction partsOf before q s generalizing b with
  | case1 => simp [octets, partsOf, Parts.map]
  | case2 before q c rest escapes ih =>
    have sign : octetsOf c = [c] := by
      simp only [Quoting.escapes, Bool.and_eq_true, decide_eq_true_eq] at escapes
      exact octetsOf_of_lt (escapes.1 ▸ by decide)
    rw [octets_cons, sign, List.singleton_append, partsOf, if_pos escapes, Parts.map_after_octets,
      octets_cons, sign, List.singleton_append]
    cases rest with
    | nil => simp [octets, partsOf, Parts.map]
    | cons d rest =>
      rw [octets_cons]
      rcases octetsOf_cases d with byte | ⟨foreign, first, more, bytes, all⟩
      · have taken : octets ((d :: rest).take 1) = [d] := (octets_singleton d).trans byte
        rw [byte, taken]
        exact congrArg _ (ih (refl _))
      · -- the backslash takes the first byte, and the others of the character are passed over
        obtain ⟨b', free, read⟩ := partsOf_foreign (fun e he => all e (List.mem_cons_of_mem _ he))
          (fun _ => SameBefore.of_foreign (all first List.mem_cons_self)) q (octets rest)
        have taken : octets ((d :: rest).take 1) = first :: more := (octets_singleton d).trans bytes
        rw [bytes, taken, ← ih (foreign_same free foreign)]
        show (partsOf (some first) q (more ++ octets rest)).after [c, first] = _
        rw [read, Parts.after_after]
        rfl
  | case3 before q c rest plain more found ih =>
    obtain ⟨-, known, repeats⟩ := separator?_eq_some found
    have low : c.toNat < 128 := by
      simp only [List.mem_cons, List.not_mem_nil, or_false] at known
      rcases known with rfl | rfl | rfl <;> decide
    have signs : octets (c :: rest.take more) = c :: rest.take more := by
      generalize c :: rest.take more = sign at repeats
      induction sign with
      | nil => rfl
      | cons d sign ih =>
        obtain rfl := repeats d List.mem_cons_self
        rw [octets_cons, octetsOf_of_lt low, ih fun e he => repeats e (List.mem_cons_of_mem _ he)]
        rfl
    have parts : octets rest = rest.take more ++ octets (rest.drop more) := by
      rw [octets_cons, octetsOf_of_lt low, List.singleton_append] at signs
      rw [← (List.cons.inj signs).2, ← octets_append, List.take_append_drop]
    have length : (rest.take more).length = more := List.length_take_of_le (length_of_separator? found)
    rw [octets_cons, octetsOf_of_lt low, List.singleton_append, partsOf, if_neg plain,
      separator?_octets same, found]
    simp only [parts, List.take_left' length, List.drop_left' length, ih (refl _)]
    rw [Parts.cut, Parts.cut, Parts.map, Parts.map, List.map_cons, signs]
    rfl
  | case4 before q c rest plain none ih =>
    have escapes : q.escapes c = false := by simpa using plain
    rw [octets_cons, Parts.map_after_octets]
    rcases octetsOf_cases c with byte | ⟨foreign, first, more, bytes, all⟩
    · rw [byte, List.singleton_append, partsOf, escapes, separator?_octets same, none, ← ih (refl _),
        octets_singleton, byte]
      rfl
    · obtain ⟨b', free, read⟩ := partsOf_foreign all (fun empty => by cases empty) q (octets rest)
      rw [bytes, read, ← ih (foreign_same free foreign), q.after_of_isIdle foreign.isIdle,
        octets_singleton, bytes]

/-! ### Boundaries -/

private theorem isValid_length_octets {text : String} {before after : List Char}
    (parts : text.toList = before ++ after) :
    String.Pos.Raw.IsValid text ⟨(octets before).length⟩ := by
  have size : (octets before).length = (String.ofList before).utf8ByteSize := by
    rw [← String.size_toByteArray, String.toByteArray_ofList, List.utf8Encode, List.size_toByteArray,
      octets, List.length_flatMap, List.length_flatMap]
    simp only [octetsOf, List.length_map]
  rw [String.Pos.Raw.isValid_iff_exists_append]
  refine ⟨String.ofList before, String.ofList after, ?_, ?_⟩
  · rw [← String.ofList_append, ← parts, String.ofList_toList]
  · rw [size]
    rfl

private theorem isValid_of_mem_slices {text : String} {t : Parts} (before : List Char)
    (parts : text.toList = before ++ t.text) :
    ∀ slice ∈ (t.map octets).slices (octets before).length,
      String.Pos.Raw.IsValid text ⟨slice.1⟩ ∧ String.Pos.Raw.IsValid text ⟨slice.2⟩ := by
  have boundaries (done segment rest : List Char) (whole : text.toList = done ++ (segment ++ rest)) :
      String.Pos.Raw.IsValid text ⟨(octets done).length⟩ ∧
        String.Pos.Raw.IsValid text ⟨(octets done).length + (octets segment).length⟩ := by
    refine ⟨isValid_length_octets whole, ?_⟩
    rw [← List.length_append, ← octets_append]
    rw [← List.append_assoc] at whole
    exact isValid_length_octets whole
  obtain ⟨cuts, last⟩ := t
  induction cuts generalizing before with
  | nil =>
    intro slice hslice
    rw [Parts.map, List.map_nil, Parts.slices] at hslice
    split at hslice
    · cases hslice
    · obtain rfl := List.mem_singleton.mp hslice
      exact boundaries before last [] (by rw [List.append_nil]; exact parts)
  | cons p cuts ih =>
    obtain ⟨segment, separator⟩ := p
    intro slice hslice
    have whole : text.toList = before ++ (segment ++ (separator ++ Parts.text ⟨cuts, last⟩)) :=
      parts.trans (congrArg _ (Parts.text_cons segment separator ⟨cuts, last⟩))
    rw [Parts.map, List.map_cons, Parts.slices] at hslice
    rcases List.mem_cons.mp hslice with rfl | later
    · exact boundaries before segment _ whole
    · have next : text.toList = (before ++ (segment ++ separator)) ++ Parts.text ⟨cuts, last⟩ := by
        rw [whole, List.append_assoc, List.append_assoc]
      refine ih _ next slice ?_
      rw [octets_append, octets_append, List.length_append, List.length_append, ← Nat.add_assoc]
      exact later

/-- A line is its segments with the separators after them, of which one may be the last part.
Separators stand outside quotes and escapes, and a single ampersand there is not part of a
redirection; a single bar parts nothing. No segment has an operator outside quotes and escapes that
could part it, neither in the line nor by itself. The bytes of the line are cut in the same places,
so every slice of them starts and ends between two characters. -/
theorem segments_part_line (text : String) : ∃ t : Parts,
    t.text = text.toList ∧ t.segments = segments text.toList ∧ t.Follow [] ∧
    (∀ segment ∈ segments text.toList, ∀ start rest, segment = start ++ rest → ¬ PartsAt start rest) ∧
    (t.map octets).text = octets text.toList ∧
    (t.map octets).segments = segments (octets text.toList) ∧ (t.map octets).Follow [] ∧
    ∀ slice ∈ (t.map octets).slices 0,
      String.Pos.Raw.IsValid text ⟨slice.1⟩ ∧ String.Pos.Raw.IsValid text ⟨slice.2⟩ := by
  have bytes := partsOf_octets (b := none) ⟨Iff.rfl, Iff.rfl⟩ .bare text.toList
  have whole := text_partsOf none .bare text.toList
  have follow (s : List Char) : (partsOf none .bare s).Follow [] := follow_partsOf rfl s
  refine ⟨partsOf none .bare text.toList, whole, (segments_eq_parts _).symm, follow _, ?_, ?_, ?_,
    ?_, ?_⟩
  · rw [segments_eq_parts]
    exact (follow _).not_partsAt rfl (by simp)
  · rw [← bytes, text_partsOf]
  · rw [← bytes, segments_eq_parts]
  · rw [← bytes]
    exact follow _
  · exact isValid_of_mem_slices [] whole.symm

end SecretFlow.Shell

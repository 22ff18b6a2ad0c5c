import Mathlib.Data.List.Nodup
import SecretFlow.Manifest.Reading

set_option autoImplicit false
set_option relaxedAutoImplicit false

/-!
Paths of fields inside a document: as texts, as steps through mappings and lists, and what a
document holds at them. A text spells one path at most, so what is said about different fields stays
apart.
-/

namespace SecretFlow

open SecretFlow.Yaml (Value)

/-- A step into a document: to what a mapping holds under a key, or to an item of a list. -/
inductive FieldStep where
  | key (name : String)
  | index (i : Nat)
  deriving DecidableEq, Repr

namespace FieldStep

def chars : FieldStep → List Char
  | key name => '.' :: name.toList
  | index i => '[' :: (Nat.toDigits 10 i ++ [']'])

/-- Whether a character cannot be taken for the start or the end of a step. -/
def isPlain (c : Char) : Bool :=
  c ≠ '.' && c ≠ '[' && c ≠ ']'

def plain : FieldStep → Bool
  | key name => name.toList.all isPlain
  | index _ => true

end FieldStep

abbrev FieldPath := List FieldStep

namespace FieldPath

/-- The text is the path as it is written, without the dot before its first key. -/
structure Spells (path : FieldPath) (text : String) : Prop where
  plain : ∀ step ∈ path, step.plain = true
  chars : '.' :: text.toList = path.flatMap FieldStep.chars

/-- Read one more character of a text, from its end on: characters gather until the sign at the
start of their step. -/
def gather (c : Char) (read : List Char × FieldPath) : List Char × FieldPath :=
  if c = '.' then ([], .key (String.ofList read.1) :: read.2)
  else if c = '[' then ([], .index (Nat.ofDigitChars 10 read.1 0) :: read.2)
  else if c = ']' then read
  else (c :: read.1, read.2)

def ofText (text : String) : FieldPath :=
  (('.' :: text.toList).foldr gather ([], [])).2

private theorem foldr_gather_plain {name : List Char} (plain : name.all FieldStep.isPlain = true)
    (read : List Char × FieldPath) : name.foldr gather read = (name ++ read.1, read.2) := by
  induction name with
  | nil => rfl
  | cons c name ih =>
    obtain ⟨first, rest⟩ := Bool.and_eq_true_iff.mp (List.all_cons ▸ plain)
    simp only [FieldStep.isPlain, ne_eq, Bool.and_eq_true, decide_eq_true_eq] at first
    rw [List.foldr_cons, ih rest, gather, if_neg first.1.1, if_neg first.1.2, if_neg first.2]
    rfl

private theorem all_isPlain_toDigits (i : Nat) :
    (Nat.toDigits 10 i).all FieldStep.isPlain = true := by
  rw [List.all_eq_true]
  intro c hc
  have digit := Nat.isDigit_of_mem_toDigits (by decide) (by decide) hc
  simp only [FieldStep.isPlain, ne_eq, Bool.and_eq_true, decide_eq_true_eq]
  refine ⟨⟨?_, ?_⟩, ?_⟩ <;> rintro rfl <;> revert digit <;> decide

private theorem foldr_gather_step {step : FieldStep} (plain : step.plain = true)
    (path : FieldPath) : step.chars.foldr gather ([], path) = ([], step :: path) := by
  cases step with
  | key name =>
    rw [FieldStep.chars, List.foldr_cons, foldr_gather_plain plain, gather, if_pos rfl,
      List.append_nil, String.ofList_toList]
  | index i =>
    have digits := foldr_gather_plain (all_isPlain_toDigits i) ([], path)
    have close : [']'].foldr gather ([], path) = ([], path) := rfl
    rw [FieldStep.chars, List.foldr_cons, List.foldr_append, close, digits, gather,
      if_neg (by decide), if_pos rfl, List.append_nil, Nat.ofDigitChars_ten_toDigits]

private theorem Spells.ofText_eq {path : FieldPath} {text : String} (spells : path.Spells text) :
    ofText text = path := by
  obtain ⟨plain, chars⟩ := spells
  unfold ofText
  rw [chars]
  have read : (path.flatMap FieldStep.chars).foldr gather ([], []) = ([], path) := by
    clear chars
    induction path with
    | nil => rfl
    | cons step path ih =>
      rw [List.flatMap_cons, List.foldr_append, ih fun other h => plain other (.tail _ h),
        foldr_gather_step (plain step (.head _))]
  rw [read]

theorem Spells.unique {path other : FieldPath} {text : String} (first : path.Spells text)
    (second : other.Spells text) : path = other :=
  first.ofText_eq.symm.trans second.ofText_eq

theorem Spells.key {path : FieldPath} {text : String} (spells : path.Spells text) (name : String)
    (plain : (FieldStep.key name).plain = true) {longer : String}
    (written : longer.toList = text.toList ++ '.' :: name.toList) :
    Spells (path ++ [.key name]) longer where
  plain := by
    intro step hs
    rcases List.mem_append.mp hs with before | last
    · exact spells.plain step before
    · rwa [List.mem_singleton.mp last]
  chars := by
    rw [List.flatMap_append, ← spells.chars, written]
    simp [FieldStep.chars]

theorem Spells.member {path : FieldPath} {text : String} (spells : path.Spells text)
    (name rest : String) (plain : (FieldStep.key name).plain = true)
    (written : rest.toList = '.' :: name.toList) : Spells (path ++ [.key name]) s!"{text}{rest}" :=
  spells.key name plain (by simp [toString, written])

theorem Spells.index {path : FieldPath} {text : String} (spells : path.Spells text) (i : Nat) :
    Spells (path ++ [.index i]) s!"{text}[{i}]" where
  plain := by
    intro step hs
    rcases List.mem_append.mp hs with before | last
    · exact spells.plain step before
    · rw [List.mem_singleton.mp last]
      rfl
  chars := by
    rw [List.flatMap_append, ← spells.chars]
    simp [FieldStep.chars, toString, Nat.repr]

private theorem foldr_gather (text name : List Char) (path : FieldPath) :
    text.foldr gather (name, path) =
      ((text.foldr gather (name, [])).1, (text.foldr gather (name, [])).2 ++ path) := by
  induction text with
  | nil => rfl
  | cons c text ih =>
    rw [List.foldr_cons, List.foldr_cons, ih]
    unfold gather
    split_ifs <;> rfl

private theorem ofText_index (text : String) (i : Nat) :
    ofText s!"{text}[{i}]" = ofText text ++ [.index i] := by
  have chars : '.' :: (s!"{text}[{i}]").toList = '.' :: text.toList ++ (FieldStep.index i).chars := by
    simp [FieldStep.chars, toString, Nat.repr]
  have last : (FieldStep.index i).chars.foldr gather ([], []) = ([], [.index i]) :=
    foldr_gather_step rfl []
  rw [ofText, chars, List.foldr_append, last, foldr_gather]
  rfl

end FieldPath

/-! ### Looking into a document -/

namespace Yaml.Value

def step? (v : Value) : FieldStep → Option Value
  | .key name => v.get? name
  | .index i => v.items?.bind (·[i]?)

def along (v : Value) : FieldPath → Option Value
  | [] => some v
  | step :: rest => (v.step? step).bind (·.along rest)

def field? (doc : Value) (text : String) : Option Value :=
  doc.along (FieldPath.ofText text)

private theorem along_append (v : Value) (path rest : FieldPath) :
    v.along (path ++ rest) = (v.along path).bind (·.along rest) := by
  induction path generalizing v with
  | nil => rfl
  | cons step path ih =>
    rw [List.cons_append, along, along]
    cases v.step? step with
    | none => rfl
    | some next => exact ih next

private theorem along_single (v : Value) (step : FieldStep) : v.along [step] = v.step? step := by
  rw [along]
  cases v.step? step <;> rfl

theorem along_concat (v : Value) (path : FieldPath) (step : FieldStep) :
    v.along (path ++ [step]) = (v.along path).bind (·.step? step) := by
  simp only [along_append, along_single]

theorem along_keys (v : Value) (names : List String) : v.along (names.map .key) = v.at? names := by
  induction names generalizing v with
  | nil => rfl
  | cons name names ih =>
    rw [List.map_cons, along, at?]
    simp only [step?, ih]

theorem field?_of_spells {path : FieldPath} {text : String} (spells : path.Spells text)
    (doc : Value) : doc.field? text = doc.along path := by
  rw [field?, spells.ofText_eq]

theorem field?_index (doc : Value) (text : String) (i : Nat) :
    doc.field? s!"{text}[{i}]" = (doc.field? text).bind (·.step? (.index i)) := by
  rw [field?, FieldPath.ofText_index, along_concat]
  rfl

end Yaml.Value

/-! ### Fields below a path -/

namespace FieldPath

def Within (path : FieldPath) (fields : List String) : Prop :=
  ∀ field ∈ fields, ∃ below : FieldPath, path <+: below ∧ below.Spells field

variable {path : FieldPath} {fields others : List String}

theorem Spells.within {text : String} (spells : path.Spells text) : path.Within [text] := by
  intro field hf
  rw [List.mem_singleton.mp hf]
  exact ⟨path, List.prefix_rfl, spells⟩

theorem within_nil (path : FieldPath) : path.Within [] := fun _ none =>
  absurd none List.not_mem_nil

theorem Within.append (first : path.Within fields) (second : path.Within others) :
    path.Within (fields ++ others) := by
  intro field hf
  rcases List.mem_append.mp hf with left | right
  · exact first field left
  · exact second field right

theorem Within.shorter {rest : FieldPath} (within : Within (path ++ rest) fields) :
    path.Within fields := by
  intro field hf
  obtain ⟨below, goesOn, spells⟩ := within field hf
  exact ⟨below, (List.prefix_append path rest).trans goesOn, spells⟩

private theorem Within.not_mem {other : FieldPath} {text : String} (within : path.Within fields)
    (spells : other.Spells text) (apart : ¬ path <+: other) : text ∉ fields := by
  intro hf
  obtain ⟨below, goesOn, same⟩ := within text hf
  exact apart (same.unique spells ▸ goesOn)

def Beyond (path : FieldPath) (fields : List String) : Prop :=
  ∀ field ∈ fields, ∃ step, Within (path ++ [step]) [field]

theorem beyond_nil (path : FieldPath) : path.Beyond [] := fun _ none =>
  absurd none List.not_mem_nil

theorem Within.beyond {step : FieldStep} (within : Within (path ++ [step]) fields) :
    path.Beyond fields := by
  intro field hf
  refine ⟨step, fun other same => ?_⟩
  rw [List.mem_singleton.mp same]
  exact within field hf

theorem Beyond.within (beyond : path.Beyond fields) : path.Within fields := by
  intro field hf
  obtain ⟨step, within⟩ := beyond field hf
  exact within.shorter field List.mem_cons_self

theorem Beyond.not_mem {text : String} (beyond : path.Beyond fields) (spells : path.Spells text) :
    text ∉ fields := by
  intro hf
  obtain ⟨step, within⟩ := beyond text hf
  refine within.not_mem spells (fun goesOn => ?_) List.mem_cons_self
  have length := goesOn.length_le
  rw [List.length_append, List.length_singleton] at length
  omega

private theorem step_unique {below : FieldPath} {step other : FieldStep}
    (first : path ++ [step] <+: below) (second : path ++ [other] <+: below) : step = other := by
  have same := List.prefix_of_prefix_length_le first second (by simp)
  obtain ⟨rest, whole⟩ := same
  rw [List.append_assoc] at whole
  exact (List.cons.inj (List.append_cancel_left whole)).1

private theorem disjoint_of_steps {step other : FieldStep} (first : Within (path ++ [step]) fields)
    (second : Within (path ++ [other]) others) (differ : step ≠ other) : fields.Disjoint others := by
  intro field hf
  obtain ⟨below, goesOn, spells⟩ := first field hf
  exact second.not_mem spells fun also => differ (step_unique goesOn also)

/-- The parts lie below different steps of the path, by the fields of what is in them. -/
structure Apart {β : Type} (field : β → String) (path : FieldPath)
    (parts : List (FieldStep × List β)) : Prop where
  within : ∀ part ∈ parts, Within (path ++ [part.1]) (part.2.map field)
  once : (parts.map (·.1)).Nodup

theorem Apart.beyond {β : Type} {field : β → String} {parts : List (FieldStep × List β)}
    (apart : path.Apart field parts) : path.Beyond ((parts.flatMap (·.2)).map field) := by
  intro said hs
  obtain ⟨b, hb, rfl⟩ := List.mem_map.mp hs
  obtain ⟨part, hp, stands⟩ := List.mem_flatMap.mp hb
  exact (apart.within part hp).beyond _ (List.mem_map_of_mem stands)

theorem nodup_items {β : Type} (give : Nat → Value → β) (items : List Value) :
    ((items.zipIdx.map fun item => (FieldStep.index item.2, give item.2 item.1)).map (·.1)).Nodup := by
  have positions : (items.zipIdx.map Prod.snd).Nodup := List.zipIdx_map_snd 0 items ▸ List.nodup_range'
  have steps := positions.map fun a b same => FieldStep.index.inj same
  rw [List.map_map] at steps ⊢
  exact steps

def Distinct (path : FieldPath) (fields : List String) : Prop :=
  path.Within fields ∧ fields.Nodup

theorem Spells.distinct {text : String} (spells : path.Spells text) : path.Distinct [text] :=
  ⟨spells.within, List.nodup_singleton text⟩

theorem distinct_nil (path : FieldPath) : path.Distinct [] :=
  ⟨path.within_nil, List.nodup_nil⟩

theorem distinct_parts (parts : List (FieldStep × List String))
    (each : ∀ part ∈ parts, Distinct (path ++ [part.1]) part.2) (once : (parts.map (·.1)).Nodup) :
    path.Beyond (parts.flatMap (·.2)) ∧ (parts.flatMap (·.2)).Nodup := by
  have apart : path.Apart id parts :=
    ⟨fun part hp => (List.map_id part.2).symm ▸ (each part hp).1, once⟩
  refine ⟨List.map_id (parts.flatMap (·.2)) ▸ apart.beyond, ?_⟩
  refine List.nodup_flatMap.mpr ⟨fun part hp => (each part hp).2, ?_⟩
  refine (List.pairwise_map.mp once).imp_of_mem fun first second differ => ?_
  exact disjoint_of_steps (each _ first).1 (each _ second).1 differ

end FieldPath

/-! ### Issues at a field -/

def messagesAt (issues : List FieldIssue) (field : String) : List String :=
  (issues.filter (·.field = field)).map (·.message)

private theorem messagesAt_append (issues others : List FieldIssue) (field : String) :
    messagesAt (issues ++ others) field = messagesAt issues field ++ messagesAt others field := by
  simp [messagesAt]

theorem messagesAt_eq_nil {issues : List FieldIssue} {field : String}
    (absent : field ∉ issues.map (·.field)) : messagesAt issues field = [] := by
  unfold messagesAt
  rw [List.map_eq_nil_iff, List.filter_eq_nil_iff]
  intro issue hi said
  exact absent (List.mem_map.mpr ⟨issue, hi, by simpa using said⟩)

namespace FieldPath

def Agree (path : FieldPath) (issues part : List FieldIssue) : Prop :=
  ∀ (below : FieldPath) (field : String), path <+: below → below.Spells field →
    messagesAt issues field = messagesAt part field

theorem Agree.trans {path : FieldPath} {step : FieldStep} {issues part piece : List FieldIssue}
    (first : path.Agree issues part) (second : Agree (path ++ [step]) part piece) :
    Agree (path ++ [step]) issues piece := by
  intro below field goesOn spells
  rw [first below field ((List.prefix_append path [step]).trans goesOn) spells]
  exact second below field goesOn spells

theorem Apart.agree {path : FieldPath} {parts : List (FieldStep × List FieldIssue)}
    (apart : path.Apart (·.field) parts) {step : FieldStep} {piece : List FieldIssue}
    (stands : (step, piece) ∈ parts) :
    Agree (path ++ [step]) (parts.flatMap (·.2)) piece := by
  intro below field goesOn spells
  have silent : ∀ part ∈ parts, part.1 ≠ step → messagesAt part.2 field = [] := by
    intro part hp differ
    refine messagesAt_eq_nil ((apart.within part hp).not_mem spells fun also => ?_)
    exact differ (step_unique also goesOn)
  obtain ⟨before, after, split⟩ := List.append_of_mem stands
  have empty (others : List (FieldStep × List FieldIssue)) (sub : others ⊆ parts)
      (differ : ∀ part ∈ others, part.1 ≠ step) :
      messagesAt (others.flatMap (·.2)) field = [] := by
    induction others with
    | nil => rfl
    | cons part others ih =>
      obtain ⟨first, rest⟩ := List.cons_subset.mp sub
      rw [List.flatMap_cons, messagesAt_append, silent part first (differ part (.head _)),
        ih rest fun other h => differ other (.tail _ h)]
      rfl
  have once := apart.once
  rw [split, List.map_append, List.map_cons, List.nodup_middle, List.nodup_cons] at once
  have differ : ∀ part ∈ before ++ after, part.1 ≠ step := by
    intro part hp same
    refine once.1 (List.map_append ▸ ?_)
    exact List.mem_map.mpr ⟨part, hp, same⟩
  rw [split, List.flatMap_append, List.flatMap_cons, messagesAt_append, messagesAt_append,
    empty before (by simp [split]) fun part hp => differ part (List.mem_append_left _ hp),
    empty after (by simp [split]) fun part hp => differ part (List.mem_append_right _ hp),
    List.nil_append, List.append_nil]

end FieldPath

end SecretFlow

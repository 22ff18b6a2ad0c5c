import Mathlib.Data.List.ReduceOption
import SecretFlow.Proofs.FieldPaths

set_option autoImplicit false
set_option relaxedAutoImplicit false

/-!
Lists that are read element by element. Every element gives an entry, in its place, or is left out
with one issue at its own field; nothing else is said at that field. What is no list gives no entry
and one issue. So each reader only has to follow a rule that says which elements can be used.
-/

namespace SecretFlow

open SecretFlow.Yaml (Value)

namespace Manifest

/-! ### Results with issues -/

namespace Noted

variable {α β : Type}

@[simp] theorem value_pure (a : α) : (pure a : Noted α).value = a := rfl

@[simp] theorem issues_pure (a : α) : (pure a : Noted α).issues = [] := rfl

@[simp] theorem value_bind (x : Noted α) (f : α → Noted β) : (x >>= f).value = (f x.value).value := rfl

@[simp] theorem issues_bind (x : Noted α) (f : α → Noted β) :
    (x >>= f).issues = x.issues ++ (f x.value).issues := rfl

instance : LawfulMonad Noted :=
  LawfulMonad.mk' Noted
    (by
      intro α x
      exact congrArg (Noted.mk x.value) (List.append_nil x.issues))
    (by
      intro α β a f
      rfl)
    (by
      intro α β γ x f g
      exact congrArg (Noted.mk _) (List.append_assoc _ _ _))

private theorem mapM_eq (f : α → Noted β) (xs : List α) :
    xs.mapM f = ⟨xs.map fun x => (f x).value, xs.flatMap fun x => (f x).issues⟩ := by
  induction xs with
  | nil => rfl
  | cons x xs ih =>
    rw [List.mapM_cons, ih]
    simp only [bind, pure, List.append_nil, List.map_cons, List.flatMap_cons]

end Noted

variable {α : Type} {read : String → Value → Noted (Option α)}

theorem readEach_eq (read : String → Value → Noted (Option α)) (field : String)
    (value : Option Value) :
    let items := (listItems field value).value.zipIdx
    readEach read field value =
      ⟨items.filterMap fun item => (read s!"{field}[{item.2}]" item.1).value,
        (listItems field value).issues ++
          items.flatMap fun item => (read s!"{field}[{item.2}]" item.1).issues⟩ := by
  intro items
  unfold readEach
  simp only [Noted.mapM_eq]
  simp only [bind, pure, List.append_nil, List.filterMap_map]
  rfl

/-! ### Lists -/

/-- How the elements of a list are read: which of them can be used, what is said of the others, and
what an entry tells of its element. -/
structure ListRule (α : Type) where
  usable : Value → Bool
  complaint : String
  Shows : String → Value → α → Prop

/-- The reader follows the rule: an element that can be used gives an entry that tells of it, and
issues beyond its field at most; any other gives no entry, and one issue at its field. -/
def ListRule.Reads (rule : ListRule α) (read : String → Value → Noted (Option α)) : Prop :=
  ∀ ⦃path : FieldPath⦄ ⦃field : String⦄ (item : Value), path.Spells field →
    (rule.usable item = true ∧ ∃ entry issues, read field item = ⟨some entry, issues⟩ ∧
      rule.Shows field item entry ∧ path.Beyond (issues.map (·.field))) ∨
    (rule.usable item = false ∧ read field item = ⟨none, [⟨field, rule.complaint⟩]⟩)

/-- The elements of the list that a document has at a field are accounted for. Each of them stands
for one entry, which tells of it, and nothing is said at its field; or it cannot be used, and one
thing is said at its field. If there is something else than a list, one thing is said at the field
of the list. -/
def Accounted (rule : ListRule α) (doc : Value) (issues : List FieldIssue) (field : String)
    (entries : List α) : Prop :=
  match doc.field? field with
  | none | some .null => entries = [] ∧ messagesAt issues field = []
  | some (.sequence items) =>
      messagesAt issues field = [] ∧
      ∃ kept : List (Option α), kept.length = items.length ∧ entries = kept.reduceOption ∧
        ∀ (j : Nat) (item : Value), items[j]? = some item →
          if rule.usable item then
            messagesAt issues s!"{field}[{j}]" = [] ∧
              ∃ entry, kept[j]? = some (some entry) ∧ rule.Shows s!"{field}[{j}]" item entry
          else messagesAt issues s!"{field}[{j}]" = [rule.complaint] ∧ kept[j]? = some none
  | some _ => entries = [] ∧ messagesAt issues field = ["expected a list"]

section Lists

variable {rule : ListRule α} (reads : rule.Reads read) {path : FieldPath} {field : String}
  (spells : path.Spells field)

include reads spells

private theorem within_read (item : Value) :
    path.Within ((read field item).issues.map (·.field)) := by
  rcases reads item spells with ⟨-, entry, issues, eq, -, beyond⟩ | ⟨-, eq⟩
  · rw [eq]
    exact beyond.within
  · rw [eq]
    exact spells.within

private theorem issues_apart (items : List Value) :
    path.Apart (·.field) (items.zipIdx.map fun item =>
      (.index item.2, (read s!"{field}[{item.2}]" item.1).issues)) where
  within := by
    intro part hp
    obtain ⟨item, -, rfl⟩ := List.mem_map.mp hp
    exact within_read reads (spells.index item.2) item.1
  once := FieldPath.nodup_items (fun j item => (read s!"{field}[{j}]" item).issues) items

omit reads spells in
private theorem issues_readEach (items : List Value) :
    (readEach read field (some (.sequence items))).issues =
      (items.zipIdx.map fun item => (FieldStep.index item.2,
        (read s!"{field}[{item.2}]" item.1).issues)).flatMap (·.2) := by
  rw [readEach_eq, List.flatMap_map]
  rfl

private theorem beyond_readEach (items : List Value) :
    path.Beyond ((readEach read field (some (.sequence items))).issues.map (·.field)) := by
  rw [issues_readEach]
  exact (issues_apart reads spells items).beyond

theorem within_readEach (value : Option Value) :
    path.Within ((readEach read field value).issues.map (·.field)) := by
  cases value with
  | none => exact path.within_nil
  | some v =>
    cases v with
    | null => exact path.within_nil
    | sequence items => exact (beyond_readEach reads spells items).within
    | bool | integer | real | text | mapping | tagged => exact spells.within

theorem agree_element {items : List Value} {j : Nat} {item : Value}
    (stands : items[j]? = some item) :
    FieldPath.Agree (path ++ [.index j]) (readEach read field (some (.sequence items))).issues
      (read s!"{field}[{j}]" item).issues := by
  rw [issues_readEach]
  refine (issues_apart reads spells items).agree (List.mem_map.mpr ⟨(item, j), ?_, rfl⟩)
  exact List.mk_mem_zipIdx_iff_getElem?.mpr stands

/-- A list that was read by a rule is accounted for, if nobody else says anything below its field.
-/
theorem accounted_readEach {doc : Value} {value : Option Value} {issues : List FieldIssue}
    (holds : doc.along path = value)
    (agree : path.Agree issues (readEach read field value).issues) :
    Accounted rule doc issues field (readEach read field value).value := by
  have said := agree path field List.prefix_rfl spells
  unfold Accounted
  rw [Value.field?_of_spells spells, holds, said]
  cases value with
  | none => exact ⟨rfl, rfl⟩
  | some v =>
    cases v with
    | null => exact ⟨rfl, rfl⟩
    | sequence items =>
      refine ⟨messagesAt_eq_nil ((beyond_readEach reads spells items).not_mem spells),
        items.zipIdx.map fun item => (read s!"{field}[{item.2}]" item.1).value, by simp, ?_, ?_⟩
      · rw [readEach_eq, List.reduceOption, List.filterMap_map]
        rfl
      · intro j item stands
        have place : (items.zipIdx.map fun item => (read s!"{field}[{item.2}]" item.1).value)[j]? =
            some (read s!"{field}[{j}]" item).value := by
          simp [stands]
        have here := spells.index j
        rw [place, agree _ _ (List.prefix_append path [.index j]) here,
          agree_element reads spells stands _ _ List.prefix_rfl here]
        rcases reads item here with ⟨usable, entry, issues, eq, shows, beyond⟩ | ⟨unusable, eq⟩
        · rw [if_pos usable, eq]
          exact ⟨messagesAt_eq_nil (beyond.not_mem here), entry, rfl, shows⟩
        · rw [if_neg (Bool.eq_false_iff.mp unusable), eq]
          exact ⟨by simp [messagesAt], rfl⟩
    | bool | integer | real | text | mapping | tagged =>
      refine ⟨rfl, ?_⟩
      show messagesAt [⟨field, "expected a list"⟩] field = ["expected a list"]
      simp [messagesAt]

end Lists

/-! ### Elements -/

def wordRule : ListRule String where
  usable item := item.scalarText?.isSome
  complaint := "expected a scalar"
  Shows _ item word := item.scalarText? = some word

def namedRule (complaint : String) (name field : α → String) : ListRule α where
  usable item := (item.textAt? "name").isSome
  complaint := complaint
  Shows path item entry := item.textAt? "name" = some (name entry) ∧ field entry = path

def envRule : ListRule EnvVariable :=
  namedRule "env entry without a name" (·.name) (·.field)

def volumeRule : ListRule Volume :=
  namedRule "volume without a name" (·.name) (·.field)

def containerRule : ListRule Container :=
  namedRule "container without a name" (·.name) (·.field)

/-- The object whose keys an element imports: a secret, or else a config map. -/
def importedFrom? (item : Value) : Option EnvImportSource :=
  (((item.get? "secretRef").bind (·.textAt? "name")).map .secret).or
    (((item.get? "configMapRef").bind (·.textAt? "name")).map .configMap)

def importRule : ListRule EnvImport where
  usable item := (importedFrom? item).isSome
  complaint := "envFrom entry without a named secretRef or configMapRef"
  Shows path item entry := importedFrom? item = some entry.source ∧ entry.field = path

def mountRule : ListRule VolumeMount where
  usable item := (item.textAt? "name").isSome && (item.textAt? "mountPath").isSome
  complaint := "volumeMount needs both 'name' and 'mountPath'"
  Shows path item entry := item.textAt? "name" = some entry.name ∧
    item.textAt? "mountPath" = some entry.mountPath ∧ entry.field = path

theorem reads_word : wordRule.Reads readScalar := by
  intro path field item spells
  unfold readScalar
  cases found : item.scalarText? with
  | some word => exact .inl ⟨by simp [wordRule, found], word, [], rfl, found, path.beyond_nil⟩
  | none => exact .inr ⟨by simp [wordRule, found], rfl⟩

private theorem beyond_readEnvSource {path : FieldPath} {field : String}
    (spells : path.Spells field)
    (entry : Value) : path.Beyond ((readEnvSource field entry).issues.map (·.field)) := by
  have value : FieldPath.Spells (path ++ [.key "value"]) s!"{field}.value" :=
    spells.member "value" ".value" rfl rfl
  have valueFrom : FieldPath.Spells (path ++ [.key "valueFrom"]) s!"{field}.valueFrom" :=
    spells.member "valueFrom" ".valueFrom" rfl rfl
  have ref : FieldPath.Spells (path ++ [.key "valueFrom"] ++ [.key "secretKeyRef"])
      s!"{field}.valueFrom.secretKeyRef" :=
    valueFrom.key "secretKeyRef" rfl (by simp [toString])
  unfold readEnvSource
  split
  · split
    · exact path.beyond_nil
    · exact value.within.beyond
  · split
    · exact path.beyond_nil
    · split
      · split
        · exact path.beyond_nil
        · exact ref.within.shorter.beyond
      · dsimp only
        split
        · exact path.beyond_nil
        · split
          · exact path.beyond_nil
          · exact path.beyond_nil

theorem reads_env : envRule.Reads readEnv := by
  intro path field item spells
  unfold readEnv
  cases named : item.textAt? "name" with
  | none => exact .inr ⟨by simp [envRule, namedRule, named], rfl⟩
  | some name =>
    refine .inl ⟨by simp [envRule, namedRule, named], _, _, rfl, ⟨named, rfl⟩, ?_⟩
    simpa using beyond_readEnvSource spells item

theorem reads_import : importRule.Reads readEnvImport := by
  intro path field item spells
  unfold readEnvImport
  cases secret : (item.get? "secretRef").bind (·.textAt? "name") with
  | some name =>
    have source : importedFrom? item = some (.secret name) := by rw [importedFrom?, secret]; rfl
    exact .inl ⟨by simp [importRule, source], _, [], rfl, ⟨source, rfl⟩, path.beyond_nil⟩
  | none =>
    cases configMap : (item.get? "configMapRef").bind (·.textAt? "name") with
    | some name =>
      have source : importedFrom? item = some (.configMap name) := by
        rw [importedFrom?, secret, configMap]
        rfl
      exact .inl ⟨by simp [importRule, source], _, [], rfl, ⟨source, rfl⟩, path.beyond_nil⟩
    | none =>
      have source : importedFrom? item = none := by rw [importedFrom?, secret, configMap]; rfl
      exact .inr ⟨by simp [importRule, source], rfl⟩

theorem reads_mount : mountRule.Reads readMount := by
  intro path field item spells
  unfold readMount
  cases named : item.textAt? "name" with
  | none => exact .inr ⟨by simp [mountRule, named], rfl⟩
  | some name =>
    cases placed : item.textAt? "mountPath" with
    | none => exact .inr ⟨by simp [mountRule, placed], rfl⟩
    | some mountPath =>
      exact .inl ⟨by simp [mountRule, named, placed], _, [], rfl, ⟨named, placed, rfl⟩,
        path.beyond_nil⟩

theorem reads_volume : volumeRule.Reads readVolume := by
  intro path field item spells
  have source : path.Beyond ((readVolumeSource field item).issues.map (·.field)) := by
    have secret : FieldPath.Spells (path ++ [.key "secret"]) s!"{field}.secret" :=
      spells.member "secret" ".secret" rfl rfl
    unfold readVolumeSource
    split
    · split
      · exact path.beyond_nil
      · exact secret.within.beyond
    · split
      · exact path.beyond_nil
      · exact path.beyond_nil
    · exact path.beyond_nil
  unfold readVolume
  cases named : item.textAt? "name" with
  | none => exact .inr ⟨by simp [volumeRule, namedRule, named], rfl⟩
  | some name =>
    refine .inl ⟨by simp [volumeRule, namedRule, named], _, _, rfl, ⟨named, rfl⟩, ?_⟩
    simpa using source

end Manifest
end SecretFlow

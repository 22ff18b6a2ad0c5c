import Mathlib.Data.List.Forall2
import Mathlib.Data.List.Induction
import Mathlib.Data.List.Sort
import SecretFlow.Scan

set_option autoImplicit false
set_option relaxedAutoImplicit false

/-!
The values of secrets are never looked at. Two lists of files whose documents differ only in the
values that secrets store, under the same keys, give manifests that differ only in their digests;
and nothing after loading looks at a digest, so the flow graphs, the findings and the verdict are
the same.
-/

namespace SecretFlow

namespace Text

section Names

variable {α : Type} {t : Table α} {name other : String} {value : α}

private theorem Table.mem_names_insert :
    other ∈ (t.insert name value).names ↔ other = name ∨ other ∈ t.names := by
  induction t with
  | nil => simp [insert, names]
  | cons entry rest ih =>
    unfold insert
    split
    · simp [names]
    · split
      · rename_i same
        simp [names, same]
      · simp only [names, List.map_cons, List.mem_cons] at ih ⊢
        rw [ih]
        exact or_left_comm

private theorem Table.pairwise_names_insert (ascending : t.names.Pairwise (· < ·)) :
    (t.insert name value).names.Pairwise (· < ·) := by
  induction t with
  | nil => simp [insert, names]
  | cons entry rest ih =>
    obtain ⟨first, later⟩ := List.pairwise_cons.mp ascending
    unfold insert
    split
    · rename_i below
      refine List.pairwise_cons.mpr ⟨?_, ascending⟩
      intro n hn
      rcases List.mem_cons.mp hn with rfl | hn
      · exact below
      · exact String.lt_trans below (first n hn)
    · rename_i notBelow
      split
      · rename_i same
        subst same
        exact ascending
      · rename_i differs
        have above : entry.1 < name := by
          by_contra notAbove
          exact differs (String.le_antisymm (String.not_lt.mp notAbove) (String.not_lt.mp notBelow))
        refine List.pairwise_cons.mpr ⟨?_, ih later⟩
        intro n hn
        rcases mem_names_insert.mp hn with rfl | hn
        · exact above
        · exact first n hn

end Names

private theorem pairwise_sortedNames (names : List String) :
    (sortedNames names).Pairwise (· < ·) := by
  unfold sortedNames Table.ofEntries
  refine List.foldlRecOn (motive := fun t : Table Unit => t.names.Pairwise (· < ·)) _ _ .nil ?_
  intro t ascending entry _
  exact Table.pairwise_names_insert ascending

private theorem mem_sortedNames {name : String} {names : List String} :
    name ∈ sortedNames names ↔ name ∈ names := by
  unfold sortedNames Table.ofEntries
  induction names using List.reverseRecOn with
  | nil => simp [Table.names]
  | append_singleton names last ih =>
    simp only [List.map_append, List.foldl_append, List.map_cons, List.map_nil, List.foldl_cons,
      List.foldl_nil, Table.mem_names_insert, ih, List.mem_append, List.mem_singleton]
    exact or_comm

end Text

namespace Yaml.Value

def keys (v : Value) : List Value :=
  (v.entries?.getD []).map (·.1)

/-- The same keys, whatever stands under them. -/
def SameKeys (v w : Value) : Prop :=
  ∀ key, key ∈ v.keys ↔ key ∈ w.keys

private theorem eq_text_of_isKey {key : String} {v : Value} (is : isKey key v = true) :
    v = .text key := by
  unfold isKey at is
  split at is
  · simpa using is
  · cases is

end Yaml.Value

namespace Manifest

open Yaml (Value)

def secretParts : List String := ["data", "stringData"]

/-- Two entries of a secret that differ at most in the values that the secret stores. -/
structure TwinEntries (a b : Value × Value) : Prop where
  key : a.1 = b.1
  value : a.2 = b.2 ∨ (∃ part ∈ secretParts, a.1 = .text part) ∧ a.2.SameKeys b.2

/-- Two documents that are the same but for the values that they store, if they are secrets. -/
inductive TwinDocuments : Value → Value → Prop
  | same (doc : Value) : TwinDocuments doc doc
  | secret {doc twin : Value} {entries others : List (Value × Value)} :
      doc.textAt? "kind" = some "Secret" → doc.entries? = some entries →
      twin.entries? = some others → List.Forall₂ TwinEntries entries others →
      TwinDocuments doc twin

def SameButDigest (m twin : Manifest) : Prop :=
  ∃ digest, twin = { m with contentHash := digest }

section Documents

variable {doc twin : Value} {entries others : List (Value × Value)}

private theorem find?_twins (twins : List.Forall₂ TwinEntries entries others) (key : String) :
    Option.Rel TwinEntries (entries.find? (Value.isKey key ·.1))
      (others.find? (Value.isKey key ·.1)) := by
  induction twins with
  | nil => exact .none
  | @cons a b entries others pair _ ih =>
    rw [List.find?_cons, List.find?_cons, ← pair.key]
    cases Value.isKey key a.1 with
    | true => exact .some pair
    | false => exact ih

private theorem get?_twins (found : doc.entries? = some entries)
    (found' : twin.entries? = some others)
    (twins : List.Forall₂ TwinEntries entries others) (key : String) :
    doc.get? key = twin.get? key ∨ key ∈ secretParts ∧
      ∃ v w, doc.get? key = some v ∧ twin.get? key = some w ∧ v.SameKeys w := by
  have pair := find?_twins twins key
  simp only [Value.get?, found, found', Option.getD_some]
  cases hit : entries.find? (Value.isKey key ·.1) with
  | none =>
    cases hit' : others.find? (Value.isKey key ·.1) with
    | none => exact .inl rfl
    | some b =>
      rw [hit, hit'] at pair
      cases pair
  | some a =>
    cases hit' : others.find? (Value.isKey key ·.1) with
    | none =>
      rw [hit, hit'] at pair
      cases pair
    | some b =>
      rw [hit, hit'] at pair
      cases pair with
      | some alike =>
        rcases alike.value with same | ⟨⟨part, hpart, is⟩, same⟩
        · exact .inl (congrArg some same)
        · have is_key := List.find?_some hit
          rw [Yaml.Value.eq_text_of_isKey is_key, Value.text.injEq] at is
          exact .inr ⟨is ▸ hpart, a.2, b.2, rfl, rfl, same⟩

private theorem get?_eq_of_twins (found : doc.entries? = some entries)
    (found' : twin.entries? = some others)
    (twins : List.Forall₂ TwinEntries entries others) {key : String} (other : key ∉ secretParts) :
    doc.get? key = twin.get? key :=
  (get?_twins found found' twins key).resolve_right fun part => other part.1

private theorem mem_secretKeys {name : String} : name ∈ secretKeys doc ↔
    ∃ part ∈ secretParts, ∃ v, doc.get? part = some v ∧
      ∃ key ∈ v.keys, key.scalarText? = some name := by
  unfold secretKeys
  rw [Text.mem_sortedNames, List.mem_flatMap]
  refine exists_congr fun part => and_congr_right fun _ => ?_
  cases doc.get? part with
  | none => simp
  | some v => simp [Value.keys]

private theorem secretKeys_twins (found : doc.entries? = some entries)
    (found' : twin.entries? = some others) (twins : List.Forall₂ TwinEntries entries others) :
    secretKeys doc = secretKeys twin := by
  have ascending (d : Value) : (secretKeys d).Pairwise (· < ·) := Text.pairwise_sortedNames _
  refine (ascending doc).eq_of_mem_iff (ascending twin) fun name => ?_
  rw [mem_secretKeys, mem_secretKeys]
  refine exists_congr fun part => and_congr_right fun _ => ?_
  rcases get?_twins found found' twins part with same | ⟨_, v, w, first, second, keys⟩
  · rw [same]
  · simp only [first, second, Option.some_inj, exists_eq_left', keys _]

private theorem shapeFault?_twins (found : doc.entries? = some entries)
    (found' : twin.entries? = some others) (twins : List.Forall₂ TwinEntries entries others) :
    shapeFault? doc = shapeFault? twin := by
  have same {key : String} (other : key ∉ secretParts) : doc.get? key = twin.get? key :=
    get?_eq_of_twins found found' twins other
  unfold shapeFault? Value.textAt?
  rw [same (by decide : "apiVersion" ∉ secretParts), same (by decide : "kind" ∉ secretParts),
    same (by decide : "metadata" ∉ secretParts), found, found']
  rfl

private theorem isNull_of_entries (found : doc.entries? = some entries) : doc.isNull = false := by
  unfold Value.entries? at found
  unfold Value.isNull
  split at found
  · rename_i mapping
    rw [mapping]
  · cases found

private theorem readBody_secret (doc : Value) :
    readBody "Secret" doc = ⟨.secret (secretKeys doc), []⟩ :=
  rfl

private theorem ofDocument_twins (kind : doc.textAt? "kind" = some "Secret")
    (found : doc.entries? = some entries) (found' : twin.entries? = some others)
    (twins : List.Forall₂ TwinEntries entries others) (file : String) (i : Nat)
    (digest digest' : String) :
    ofDocument twin file i digest' = { ofDocument doc file i digest with contentHash := digest' } := by
  have same {key : String} (other : key ∉ secretParts) : doc.get? key = twin.get? key :=
    get?_eq_of_twins found found' twins other
  have texts {key : String} (other : key ∉ secretParts) : doc.textAt? key = twin.textAt? key := by
    rw [Value.textAt?, Value.textAt?, same other]
  unfold ofDocument
  simp only [← texts (by decide : "apiVersion" ∉ secretParts),
    ← texts (by decide : "kind" ∉ secretParts), ← same (by decide : "metadata" ∉ secretParts), kind,
    Option.getD_some, readBody_secret, secretKeys_twins found found' twins]

end Documents

inductive TwinResults : Except Yaml.YamlError Value → Except Yaml.YamlError Value → Prop
  | malformed (e : Yaml.YamlError) : TwinResults (.error e) (.error e)
  | document {doc twin : Value} : TwinDocuments doc twin → TwinResults (.ok doc) (.ok twin)

inductive SameLoaded : Except LoadError Manifest → Except LoadError Manifest → Prop
  | skipped (e : LoadError) : SameLoaded (.error e) (.error e)
  | manifest {m twin : Manifest} : m.SameButDigest twin → SameLoaded (.ok m) (.ok twin)

private theorem loadFrom_twins {docs twins : List (Except Yaml.YamlError Value)}
    (pairs : List.Forall₂ TwinResults docs twins) (file digest digest' : String) (i : Nat) :
    List.Forall₂ SameLoaded (loadFrom file digest i docs) (loadFrom file digest' i twins) := by
  induction pairs generalizing i with
  | nil => exact .nil
  | cons pair _ ih =>
    cases pair with
    | malformed e => exact .cons (.skipped _) .nil
    | document twin =>
      cases twin with
      | same =>
        simp only [loadFrom]
        split
        · exact ih (i + 1)
        · split
          · exact .cons (.skipped _) (ih (i + 1))
          · exact .cons (.manifest ⟨digest', rfl⟩) (ih (i + 1))
      | secret kind found found' entries =>
        simp only [loadFrom, isNull_of_entries found, isNull_of_entries found', Bool.false_eq_true,
          if_false, ← shapeFault?_twins found found' entries]
        split
        · exact .cons (.skipped _) (ih (i + 1))
        · exact .cons (.manifest ⟨digest', ofDocument_twins kind found found' entries _ _ _ _⟩)
            (ih (i + 1))

private theorem SameButDigest.flowGraph_eq {m twin : Manifest} (same : m.SameButDigest twin)
    (options : FlowOptions) (cluster : Option Cluster) (resolve : Resolver) :
    m.flowGraph options cluster resolve = twin.flowGraph options cluster resolve := by
  obtain ⟨digest, rfl⟩ := same
  rfl

private theorem SameButDigest.declare_eq {m twin : Manifest} (same : m.SameButDigest twin)
    (c : Cluster) : c.declare m = c.declare twin := by
  obtain ⟨digest, rfl⟩ := same
  rfl

end Manifest

/-- Two files whose documents are twins; if one of them cannot be read, neither can the other. -/
inductive ManifestFile.Twins : ManifestFile → ManifestFile → Prop
  | unreadable (path message : String) : Twins ⟨path, .error message⟩ ⟨path, .error message⟩
  | documents (path digest digest' : String) {docs twins : List (Except Yaml.YamlError Yaml.Value)} :
      List.Forall₂ Manifest.TwinResults docs twins →
      Twins ⟨path, .ok ⟨digest, docs⟩⟩ ⟨path, .ok ⟨digest', twins⟩⟩

namespace Batch

variable {fs twins : List ManifestFile}

private theorem loaded_twins (pairs : List.Forall₂ ManifestFile.Twins fs twins) :
    List.Forall₂ Manifest.SameLoaded (fs.flatMap ManifestFile.load)
      (twins.flatMap ManifestFile.load) := by
  induction pairs with
  | nil => exact .nil
  | cons pair _ ih =>
    rw [List.flatMap_cons, List.flatMap_cons]
    refine List.rel_append ?_ ih
    cases pair with
    | unreadable => exact .cons (.skipped _) .nil
    | documents _ _ _ docs => exact Manifest.loadFrom_twins docs _ _ _ _

private theorem manifests_twins (pairs : List.Forall₂ ManifestFile.Twins fs twins) :
    List.Forall₂ Manifest.SameButDigest (ofFiles fs).manifests (ofFiles twins).manifests := by
  refine List.rel_filterMap ?_ (loaded_twins pairs)
  rintro _ _ (e | same)
  · exact .none
  · exact .some same

private theorem skipped_twins (pairs : List.Forall₂ ManifestFile.Twins fs twins) :
    (ofFiles fs).skipped = (ofFiles twins).skipped := by
  rw [← List.forall₂_eq_eq_eq]
  refine List.rel_filterMap ?_ (loaded_twins pairs)
  rintro _ _ (e | same)
  · exact .some rfl
  · exact .none

end Batch

private theorem Cluster.ofManifests_twins {ms twins : List Manifest}
    (pairs : List.Forall₂ Manifest.SameButDigest ms twins) :
    Cluster.ofManifests ms = Cluster.ofManifests twins := by
  refine List.rel_foldl ?_ rfl pairs
  rintro c _ rfl m twin same
  exact same.declare_eq c

def UnitReport.SameButDigest (u twin : UnitReport) : Prop :=
  ∃ digest, twin = { u with contentHash := digest }

/-- Two reports of scans that differ at most in the digests of their units. -/
structure ScanReport.SameButDigests (r twin : ScanReport) : Prop where
  root : r.root = twin.root
  units : List.Forall₂ UnitReport.SameButDigest r.units twin.units
  skipped : r.skipped = twin.skipped
  cancelled : r.cancelled = twin.cancelled
  verdict : r.verdict = twin.verdict

private theorem Analysis.unitReports_twins (a : Analysis) {ms twins : List Manifest}
    (pairs : List.Forall₂ Manifest.SameButDigest ms twins) (resolvers : List Resolver) :
    List.Forall₂ UnitReport.SameButDigest (resolvers.zipWith a.unitReportWith ms)
      (resolvers.zipWith a.unitReportWith twins) := by
  induction pairs generalizing resolvers with
  | nil => simp
  | cons pair _ ih =>
    cases resolvers with
    | nil => exact .nil
    | cons resolve resolvers =>
      obtain ⟨digest, rfl⟩ := pair
      exact .cons ⟨digest, rfl⟩ (ih resolvers)

private theorem Analysis.graphs_twins (a : Analysis) {ms twins : List Manifest}
    (pairs : List.Forall₂ Manifest.SameButDigest ms twins) (resolvers : List Resolver) :
    resolvers.zipWith a.graphWith ms = resolvers.zipWith a.graphWith twins := by
  induction pairs generalizing resolvers with
  | nil => rfl
  | cons pair _ ih =>
    cases resolvers with
    | nil => rfl
    | cons resolve resolvers =>
      rw [List.zipWith_cons_cons, List.zipWith_cons_cons, ih resolvers]
      exact congrArg (· :: _) (pair.flowGraph_eq _ _ _)

private theorem Policy.report_twins (p : Policy) (root : String) {units twins : List UnitReport}
    (pairs : List.Forall₂ UnitReport.SameButDigest units twins) (skipped : List SkippedUnit)
    (cancelled : Nat) :
    (p.report root units skipped cancelled).SameButDigests
      (p.report root twins skipped cancelled) where
  root := rfl
  units := by
    rw [report, report, List.forall₂_map_left_iff, List.forall₂_map_right_iff]
    refine pairs.imp ?_
    rintro u _ ⟨digest, rfl⟩
    exact ⟨digest, rfl⟩
  skipped := rfl
  cancelled := rfl
  verdict := by
    have findings : units.flatMap (·.findings) = twins.flatMap (·.findings) := by
      induction pairs with
      | nil => rfl
      | cons pair _ ih =>
        obtain ⟨digest, rfl⟩ := pair
        rw [List.flatMap_cons, List.flatMap_cons, ih]
    rw [report, report, findings]

/-- Secret values never influence the analysis. If the documents of two lists of files are the same
but for the values that secrets store, under the same keys, the manifests are the same but for their
digests, and so are what is skipped and what the cluster is known to hold. Under any settings, and
however the scripts of each unit are found, the flow graphs are the same, with their diagnostics,
and so are the reports but for the digests, with their findings and the verdict. -/
theorem Batch.secret_values_unseen {fs twins : List ManifestFile}
    (pairs : List.Forall₂ ManifestFile.Twins fs twins) :
    let batch := ofFiles fs
    let twin := ofFiles twins
    List.Forall₂ Manifest.SameButDigest batch.manifests twin.manifests ∧
    batch.skipped = twin.skipped ∧
    Cluster.ofManifests batch.manifests = Cluster.ofManifests twin.manifests ∧
    ∀ (files : FileTree) (root : String) (config : Config) (rules : List SinkRule)
      (resolvers : List Resolver) (policy : Policy) (cancelled : Nat),
      let a := Analysis.ofBatch files root config rules batch
      let a' := Analysis.ofBatch files root config rules twin
      resolvers.zipWith a.graphWith batch.manifests =
        resolvers.zipWith a'.graphWith twin.manifests ∧
      (policy.report root (resolvers.zipWith a.unitReportWith batch.manifests) batch.skipped
          cancelled).SameButDigests
        (policy.report root (resolvers.zipWith a'.unitReportWith twin.manifests) twin.skipped
          cancelled) := by
  intro batch twin
  have manifests : List.Forall₂ Manifest.SameButDigest batch.manifests twin.manifests :=
    manifests_twins pairs
  have skipped : batch.skipped = twin.skipped := skipped_twins pairs
  have cluster := Cluster.ofManifests_twins manifests
  refine ⟨manifests, skipped, cluster, ?_⟩
  intro files root config rules resolvers policy cancelled a a'
  have same : a = a' := by
    simp only [a, a', Analysis.ofBatch, cluster]
  rw [← same, ← skipped]
  exact ⟨a.graphs_twins manifests resolvers,
    policy.report_twins root (a.unitReports_twins manifests resolvers) batch.skipped cancelled⟩

/-- A pod that prints a password, and the secret that it is taken from with two passwords. -/
theorem Batch.secret_values_unseen_password :
    let head (kind name : String) : List (Yaml.Value × Yaml.Value) :=
      [(.text "apiVersion", .text "v1"), (.text "kind", .text kind),
        (.text "metadata", .mapping [(.text "name", .text name)])]
    let secret (value : Yaml.Value) : Yaml.Value := .mapping
      (head "Secret" "db" ++ [(.text "data", .mapping [(.text "password", value)])])
    let pod : Yaml.Value := .mapping (head "Pod" "job" ++ [(.text "spec", .mapping
      [(.text "containers", .sequence [.mapping [(.text "name", .text "app"),
        (.text "command", .sequence [.text "sh", .text "-c", .text "echo $password"]),
        (.text "envFrom", .sequence [.mapping
          [(.text "secretRef", .mapping [(.text "name", .text "db")])]])]])])])
    let file (digest : String) (value : Yaml.Value) : ManifestFile :=
      ⟨"app.yaml", .ok ⟨digest, [.ok (secret value), .ok pod]⟩⟩
    let batch := ofFiles [file "5d41" (.text "hunter2")]
    let twin := ofFiles [file "7d79" (.integer 7)]
    batch.manifests.map (·.name) = ["db", "job"] ∧ batch.manifests ≠ twin.manifests ∧
    (Cluster.ofManifests batch.manifests).secretKeys? "db" = some ["password"] ∧
    Cluster.ofManifests batch.manifests = Cluster.ofManifests twin.manifests ∧
    ∀ (files : FileTree) (config : Config) (rules : List SinkRule) (resolve : Resolver)
      (policy : Policy),
      let a := Analysis.ofBatch files "." config rules batch
      let a' := Analysis.ofBatch files "." config rules twin
      (policy.report "." (batch.manifests.map (a.unitReportWith resolve)) batch.skipped 0).verdict =
        (policy.report "." (twin.manifests.map (a'.unitReportWith resolve)) twin.skipped 0).verdict := by
  intro head secret pod file batch twin
  have secrets : Manifest.TwinDocuments (secret (.text "hunter2")) (secret (.integer 7)) := by
    refine .secret (by decide +kernel) rfl rfl (.cons ⟨rfl, .inl rfl⟩ (.cons ⟨rfl, .inl rfl⟩
      (.cons ⟨rfl, .inl rfl⟩ (.cons ⟨rfl, .inr ?_⟩ .nil))))
    exact ⟨⟨"data", List.mem_cons_self, rfl⟩, fun key => Iff.rfl⟩
  have pairs : List.Forall₂ ManifestFile.Twins [file "5d41" (.text "hunter2")]
      [file "7d79" (.integer 7)] :=
    .cons (.documents _ _ _ (.cons (.document secrets) (.cons (.document (.same pod)) .nil))) .nil
  obtain ⟨_, _, cluster, reports⟩ := secret_values_unseen pairs
  refine ⟨by decide +kernel, by decide +kernel, by decide +kernel, cluster, ?_⟩
  intro files config rules resolve policy
  exact (reports files "." config rules [resolve, resolve] policy 0).2.verdict

end SecretFlow

import SecretFlow.Proofs.ScanReports

set_option autoImplicit false
set_option relaxedAutoImplicit false

/-!
Every document is accounted for. What loading a list of files gives is tied to positions: that of a
file, and that of a document in it. Each position that should give something gives it once, as a
manifest or as something skipped, and all of them stand in order; of the manifests, each one that
the scan is not cancelled for has its unit.
-/

namespace SecretFlow

section Lists

variable {P Q α β : Type}

/-- A list holds what belongs to positions: every position gives what belongs to it exactly once, in
the order of the positions, and there is nothing else. -/
def Lists (before : P → P → Prop) (entry : P → α → Prop) (xs : List α) : Prop :=
  ∃ listed : List (P × α), listed.map (·.2) = xs ∧ listed.Pairwise (fun a b => before a.1 b.1) ∧
    ∀ place x, (place, x) ∈ listed ↔ entry place x

variable {before : P → P → Prop} {entry more : P → α → Prop} {xs ys : List α}

namespace Lists

private theorem congr (lists : Lists before entry xs)
    (same : ∀ place x, entry place x ↔ more place x) : Lists before more xs := by
  obtain ⟨listed, values, order, exactly⟩ := lists
  exact ⟨listed, values, order, fun place x => (exactly place x).trans (same place x)⟩

private theorem nil (none : ∀ place x, ¬ entry place x) : Lists before entry [] :=
  ⟨[], rfl, .nil, fun place x => by simp [none place x]⟩

private theorem single (place : P) (x : α) : Lists before (fun q y => q = place ∧ y = x) [x] :=
  ⟨[(place, x)], rfl, List.pairwise_singleton _ _, fun q y => by simp⟩

private theorem append (first : Lists before entry xs) (second : Lists before more ys)
    (later : ∀ p x q y, entry p x → more q y → before p q) :
    Lists before (fun place x => entry place x ∨ more place x) (xs ++ ys) := by
  obtain ⟨listed, rfl, order, exactly⟩ := first
  obtain ⟨others, rfl, order', exactly'⟩ := second
  refine ⟨listed ++ others, List.map_append, ?_, ?_⟩
  · refine List.pairwise_append.mpr ⟨order, order', ?_⟩
    intro a ha b hb
    exact later a.1 a.2 b.1 b.2 ((exactly _ _).mp ha) ((exactly' _ _).mp hb)
  · intro place x
    rw [List.mem_append, exactly, exactly']

private theorem relocate (lists : Lists before entry xs) (beyond : Q → Q → Prop) (move : P → Q)
    (keeps : ∀ p q, before p q → beyond (move p) (move q)) :
    Lists beyond (fun place x => ∃ p, move p = place ∧ entry p x) xs := by
  obtain ⟨listed, rfl, order, exactly⟩ := lists
  refine ⟨listed.map fun a => (move a.1, a.2), by simp, ?_, ?_⟩
  · exact List.pairwise_map.mpr (order.imp fun earlier => keeps _ _ earlier)
  · intro place x
    simp only [List.mem_map, Prod.mk.injEq]
    constructor
    · rintro ⟨a, ha, moved, rfl⟩
      exact ⟨a.1, moved, (exactly _ _).mp ha⟩
    · rintro ⟨p, moved, holds⟩
      exact ⟨(p, x), (exactly p x).mpr holds, moved, rfl⟩

private theorem filterMap (lists : Lists before entry xs) (choose : α → Option β) :
    Lists before (fun place y => ∃ x, entry place x ∧ choose x = some y)
      (xs.filterMap choose) := by
  obtain ⟨listed, rfl, order, exactly⟩ := lists
  refine ⟨listed.filterMap fun a => (choose a.2).map (a.1, ·), ?_, ?_, ?_⟩
  · rw [List.map_filterMap, List.filterMap_map]
    congr 1
    funext a
    simp [Function.comp_def]
  · refine List.pairwise_filterMap.mpr (order.imp ?_)
    intro a b earlier c hc d hd
    obtain ⟨_, _, rfl⟩ := Option.map_eq_some_iff.mp hc
    obtain ⟨_, _, rfl⟩ := Option.map_eq_some_iff.mp hd
    exact earlier
  · intro place y
    simp only [List.mem_filterMap, Option.map_eq_some_iff, Prod.mk.injEq]
    constructor
    · rintro ⟨a, ha, _, chosen, rfl, rfl⟩
      exact ⟨a.2, (exactly _ _).mp ha, chosen⟩
    · rintro ⟨x, holds, chosen⟩
      exact ⟨(place, x), (exactly place x).mpr holds, y, chosen, rfl, rfl⟩

private theorem self (xs : List α) : Lists (· < ·) (fun (i : Nat) x => xs[i]? = some x) xs := by
  induction xs with
  | nil => exact nil (by simp)
  | cons x xs ih =>
    have rest := ih.relocate (· < ·) (· + 1) (fun p q => Nat.succ_lt_succ)
    refine ((single 0 x).append rest ?_).congr ?_
    · rintro p _ q _ ⟨rfl, _⟩ ⟨_, rfl, _⟩
      exact Nat.succ_pos _
    · rintro (_ | place) y
      · simp [eq_comm]
      · simp

end Lists

end Lists

abbrev DocumentPlace := Nat × Nat

abbrev DocumentPlace.Before : DocumentPlace → DocumentPlace → Prop :=
  Prod.Lex (· < ·) (· < ·)

namespace Manifest

/-- What a document at a position of a file gives, if it gives anything: an empty document does
not. -/
inductive DocumentGives (file digest : String) (i : Nat) :
    Except Yaml.YamlError Yaml.Value → Except LoadError Manifest → Prop
  | malformed (e : Yaml.YamlError) :
      DocumentGives file digest i (.error e) (.error (.malformed file i e))
  | misshapen {doc : Yaml.Value} {fault : ShapeFault} : doc.isNull = false →
      shapeFault? doc = some fault →
      DocumentGives file digest i (.ok doc) (.error (.schema file i fault))
  | manifest {doc : Yaml.Value} : doc.isNull = false → shapeFault? doc = none →
      DocumentGives file digest i (.ok doc) (.ok (ofDocument doc file i digest))

def ReadTo (docs : List (Except Yaml.YamlError Yaml.Value)) (i : Nat) : Prop :=
  ∀ j < i, ∃ doc, docs[j]? = some (.ok doc)

def DocumentsGive (file digest : String) (start : Nat)
    (docs : List (Except Yaml.YamlError Yaml.Value)) (i : Nat) (r : Except LoadError Manifest) :
    Prop :=
  ∃ k, i = start + k ∧ ReadTo docs k ∧ ∃ d, docs[k]? = some d ∧ DocumentGives file digest i d r

section Documents

variable {file digest : String} {start i : Nat} {e : Yaml.YamlError} {doc : Yaml.Value}
  {docs : List (Except Yaml.YamlError Yaml.Value)} {r : Except LoadError Manifest}

private theorem readTo_succ_iff : ReadTo (.ok doc :: docs) (i + 1) ↔ ReadTo docs i := by
  constructor
  · intro read j below
    simpa using read (j + 1) (Nat.succ_lt_succ below)
  · rintro read (_ | j) below
    · exact ⟨doc, rfl⟩
    · simpa using read j (Nat.lt_of_succ_lt_succ below)

private theorem not_readTo_succ : ¬ ReadTo (.error e :: docs) (i + 1) := by
  intro read
  obtain ⟨doc, first⟩ := read 0 (Nat.succ_pos i)
  cases first

private theorem documentsGive_error_iff : DocumentsGive file digest start (.error e :: docs) i r ↔
    i = start ∧ r = .error (.malformed file start e) := by
  constructor
  · rintro ⟨_ | k, rfl, read, d, found, gives⟩
    · obtain rfl : .error e = d := by simpa using found
      cases gives
      exact ⟨rfl, rfl⟩
    · exact absurd read not_readTo_succ
  · rintro ⟨rfl, rfl⟩
    exact ⟨0, rfl, by simp [ReadTo], _, rfl, .malformed e⟩

private theorem documentsGive_ok_iff : DocumentsGive file digest start (.ok doc :: docs) i r ↔
    (i = start ∧ DocumentGives file digest start (.ok doc) r) ∨
      DocumentsGive file digest (start + 1) docs i r := by
  constructor
  · rintro ⟨_ | k, rfl, read, d, found, gives⟩
    · obtain rfl : .ok doc = d := by simpa using found
      exact .inl ⟨rfl, gives⟩
    · exact .inr ⟨k, by omega, readTo_succ_iff.mp read, d, by simpa using found, gives⟩
  · rintro (⟨rfl, gives⟩ | ⟨k, rfl, read, d, found, gives⟩)
    · exact ⟨0, rfl, by simp [ReadTo], _, rfl, gives⟩
    · exact ⟨k + 1, by omega, readTo_succ_iff.mpr read, d, by simpa using found, gives⟩

private theorem le_of_documentsGive (gives : DocumentsGive file digest start docs i r) :
    start ≤ i := by
  obtain ⟨k, rfl, _⟩ := gives
  exact Nat.le_add_right start k

private theorem lists_loadFrom (file digest : String) (start : Nat)
    (docs : List (Except Yaml.YamlError Yaml.Value)) :
    Lists (· < ·) (DocumentsGive file digest start docs) (loadFrom file digest start docs) := by
  induction docs generalizing start with
  | nil =>
    refine .nil ?_
    rintro i r ⟨k, _, _, d, found, _⟩
    simp at found
  | cons d docs ih =>
    cases d with
    | error e => exact (Lists.single start _).congr fun _ _ => documentsGive_error_iff.symm
    | ok doc =>
      have later := ih (start + 1)
      -- a document that gives one thing stands before all that the later ones give
      have first {r : Except LoadError Manifest}
          (only : ∀ r', DocumentGives file digest start (.ok doc) r' ↔ r' = r) :
          Lists (· < ·) (DocumentsGive file digest start (.ok doc :: docs))
            (r :: loadFrom file digest (start + 1) docs) := by
        refine ((Lists.single start r).append later ?_).congr ?_
        · rintro p _ q y ⟨rfl, _⟩ gives
          exact le_of_documentsGive gives
        · intro i r'
          rw [documentsGive_ok_iff, only]
      simp only [loadFrom]
      split
      · rename_i empty
        refine later.congr fun i r => ?_
        rw [documentsGive_ok_iff]
        refine ⟨.inr, ?_⟩
        rintro (⟨_, gives⟩ | gives)
        · cases gives <;> simp_all
        · exact gives
      · rename_i full
        have full : doc.isNull = false := by simpa using full
        split
        · rename_i fault misshapen
          refine first fun r' => ⟨?_, fun same => same ▸ .misshapen full misshapen⟩
          intro gives
          cases gives <;> simp_all
        · rename_i shaped
          refine first fun r' => ⟨?_, fun same => same ▸ .manifest full shaped⟩
          intro gives
          cases gives <;> simp_all

end Documents

end Manifest

/-- What a file gives at a position: why it could not be read, at the first one, or what the
document there gives, up to the first malformed one. -/
inductive ManifestFile.Gives (f : ManifestFile) : Nat → Except LoadError Manifest → Prop
  | unreadable {message : String} : f.content = .error message →
      Gives f 0 (.error (.unreadable f.path message))
  | document {content : FileContent} {i : Nat} {d : Except Yaml.YamlError Yaml.Value}
      {r : Except LoadError Manifest} : f.content = .ok content →
      Manifest.ReadTo content.documents i → content.documents[i]? = some d →
      Manifest.DocumentGives f.path content.digest i d r → Gives f i r

namespace ManifestFile

variable {f : ManifestFile}

private theorem content_read_eq_ok_iff {files : FileTree} {maxBytes : Nat} {path : String}
    {content : FileContent} : (read files maxBytes path).content = .ok content ↔
      ∃ bytes, files.read path = .ok bytes ∧ bytes.length ≤ maxBytes ∧
        content = ⟨Digest.sha256Text bytes, Yaml.documents (Text.normalizeBytes bytes)⟩ := by
  simp only [read, FileContent.read, FileTree.read]
  rcases files.entry path with e | ⟨bytes⟩ | ⟨entries⟩
  · simp
  · by_cases large : maxBytes < bytes.length
    · simp [Entry.size, large, Nat.not_le_of_lt large]
    · simp [Entry.size, large, Nat.le_of_not_lt large, eq_comm]
  · simp only
    split <;> simp

private theorem lists_load (f : ManifestFile) : Lists (· < ·) f.Gives f.load := by
  unfold load
  cases read : f.content with
  | error message =>
    refine (Lists.single 0 _).congr fun i r => ⟨?_, ?_⟩
    · rintro ⟨rfl, rfl⟩
      exact .unreadable read
    · rintro (failed | ⟨found, _, _, _⟩)
      · rw [read, Except.error.injEq] at failed
        subst failed
        exact ⟨rfl, rfl⟩
      · rw [read] at found
        cases found
  | ok content =>
    refine (Manifest.lists_loadFrom f.path content.digest 0 content.documents).congr
      fun i r => ⟨?_, ?_⟩
    · rintro ⟨k, rfl, readTo, d, found, gives⟩
      exact .document read (by simpa using readTo) (by simpa using found) gives
    · rintro (failed | ⟨found, readTo, here, gives⟩)
      · rw [read] at failed
        cases failed
      · rw [read, Except.ok.injEq] at found
        subst found
        exact ⟨i, by simp, readTo, _, here, gives⟩

private theorem Gives.unique {i : Nat} {r r' : Except LoadError Manifest} (first : f.Gives i r)
    (second : f.Gives i r') : r = r' := by
  cases first with
  | unreadable failed =>
    cases second with
    | unreadable failed' => simp_all
    | document read => simp_all
  | document read _ found gives =>
    cases second with
    | unreadable failed => simp_all
    | document read' _ found' gives' =>
      rw [read, Except.ok.injEq] at read'
      subst read'
      rw [found, Option.some_inj] at found'
      subst found'
      cases gives <;> cases gives' <;> simp_all

private theorem Gives.le_malformed {i j : Nat} {e : Yaml.YamlError} {r : Except LoadError Manifest}
    (malformed : f.Gives i (.error (.malformed f.path i e))) (gives : f.Gives j r) : j ≤ i := by
  cases malformed with
  | document read _ found broken =>
    cases broken
    cases gives with
    | unreadable => exact Nat.zero_le i
    | document read' readTo =>
      rw [read, Except.ok.injEq] at read'
      subst read'
      by_contra beyond
      obtain ⟨doc, here⟩ := readTo i (Nat.lt_of_not_le beyond)
      rw [found] at here
      cases here

end ManifestFile

namespace Batch

def Gives (fs : List ManifestFile) (place : DocumentPlace) (r : Except LoadError Manifest) : Prop :=
  ∃ f, fs[place.1]? = some f ∧ f.Gives place.2 r

private theorem lists_loaded (fs : List ManifestFile) :
    Lists DocumentPlace.Before (Gives fs) (fs.flatMap ManifestFile.load) := by
  induction fs with
  | nil => exact .nil (by simp [Gives])
  | cons f fs ih =>
    have own := f.lists_load.relocate DocumentPlace.Before (fun i => (0, i))
      fun p q earlier => .right _ earlier
    have others := ih.relocate DocumentPlace.Before (fun place => (place.1 + 1, place.2))
      fun p q earlier => by
        rcases earlier with ⟨_, _, files⟩ | ⟨_, docs⟩
        · exact .left _ _ (Nat.succ_lt_succ files)
        · exact .right _ docs
    refine (own.append others ?_).congr ?_
    · rintro _ _ _ _ ⟨i, rfl, _⟩ ⟨place, rfl, _⟩
      exact .left _ _ (Nat.succ_pos _)
    · rintro ⟨_ | n, i⟩ r
      · simp [Gives]
      · simp [Gives]

private theorem lists_manifests (fs : List ManifestFile) :
    Lists DocumentPlace.Before (fun place m => Gives fs place (.ok m)) (ofFiles fs).manifests := by
  refine ((lists_loaded fs).filterMap _).congr fun place m => ⟨?_, ?_⟩
  · rintro ⟨_ | m', gives, same⟩
    · cases same
    · obtain rfl : m' = m := by simpa using same
      exact gives
  · exact fun gives => ⟨_, gives, rfl⟩

private theorem lists_skipped (fs : List ManifestFile) :
    Lists DocumentPlace.Before (fun place s => ∃ e, Gives fs place (.error e) ∧ s = skip e)
      (ofFiles fs).skipped := by
  refine ((lists_loaded fs).filterMap _).congr fun place s => ⟨?_, ?_⟩
  · rintro ⟨e | _, gives, same⟩
    · exact ⟨e, gives, by simpa using same.symm⟩
    · cases same
  · rintro ⟨e, gives, rfl⟩
    exact ⟨_, gives, rfl⟩

end Batch

private theorem prepare_loads {files : FileTree} {root : String} {config : Config} {batch : Batch}
    {analysis : Analysis} (prepared : prepare files root config = .ok (batch, analysis)) :
    ∃ options paths, LoadOptions.ofSettings config.scan = .ok options ∧
      manifestFiles files root options = .ok paths ∧
      batch = .ofFiles (paths.map (ManifestFile.read files options.maxFileBytes)) := by
  unfold prepare Batch.load at prepared
  cases settings : LoadOptions.ofSettings config.scan with
  | error e => simp [settings, bind, Except.bind] at prepared
  | ok options =>
    cases found : manifestFiles files root options with
    | error e => simp [settings, found, bind, Except.bind] at prepared
    | ok paths =>
      refine ⟨options, paths, rfl, found, ?_⟩
      simp only [settings, found, bind, Except.bind] at prepared
      split at prepared
      · cases prepared
      · exact (Prod.mk.inj (Except.ok.inj prepared)).1.symm

namespace Analysis

private theorem lists_unitReports (a : Analysis) (stopped : Nat → Bool) (ms : List Manifest) :
    Lists (· < ·) (fun i u => ∃ m, ms[i]? = some m ∧ stopped i = false ∧ u = a.unitReport m)
      ((a.unitReports stopped ms).filterMap id) := by
  refine ((Lists.self (a.unitReports stopped ms)).filterMap id).congr fun i u => ?_
  rw [unitReports, List.getElem?_mapIdx]
  cases ms[i]? with
  | none => simp
  | some m => cases stopped i <;> simp [eq_comm]

private theorem length_unitReports (a : Analysis) (stopped : Nat → Bool) (ms : List Manifest) :
    ((a.unitReports stopped ms).filterMap id).length +
      (a.unitReports stopped ms).countP (·.isNone) = ms.length := by
  have all : (a.unitReports stopped ms).length = ms.length := List.length_mapIdx
  have others : (fun r : Option UnitReport => decide ¬ r.isSome = true) = (·.isNone) := by
    funext r
    cases r <;> rfl
  rw [← all, List.length_filterMap_eq_countP, List.length_eq_countP_add_countP (·.isSome), others]
  rfl

end Analysis

/-- A scan, wherever it is cancelled, skips what loading skips, and has a unit for every manifest
that it is not cancelled for, in order; it counts the others. -/
structure ScanReport.Accounts (r : ScanReport) (batch : Batch) (analysis : Analysis) (policy : Policy)
    (stopped : Nat → Bool) : Prop where
  skipped : r.skipped = batch.skipped
  counted : r.units.length + r.cancelled = batch.manifests.length
  units : Lists (· < ·) (fun i u => ∃ m, batch.manifests[i]? = some m ∧ stopped i = false ∧
    u = { analysis.unitReport m with findings := policy.apply (analysis.unitReport m).findings })
    r.units

private theorem accounts_report (batch : Batch) (analysis : Analysis) (policy : Policy)
    (root : String) (stopped : Nat → Bool) :
    (policy.report root ((analysis.unitReports stopped batch.manifests).filterMap id) batch.skipped
      ((analysis.unitReports stopped batch.manifests).countP (·.isNone))).Accounts batch analysis
        policy stopped where
  skipped := rfl
  counted := by
    rw [Policy.report, List.length_map]
    exact analysis.length_unitReports stopped batch.manifests
  units := by
    rw [Policy.report, ← List.filterMap_eq_map]
    refine ((analysis.lists_unitReports stopped batch.manifests).filterMap _).congr fun i u => ?_
    simp only [Function.comp_apply, Option.some_inj]
    constructor
    · rintro ⟨_, ⟨m, here, running, rfl⟩, rfl⟩
      exact ⟨m, here, running, rfl⟩
    · rintro ⟨m, here, running, rfl⟩
      exact ⟨_, ⟨m, here, running, rfl⟩, rfl⟩

/-- Every document is accounted for exactly once and in order. Whatever the files hold, the
manifests and what is skipped are what the files give at the positions of their documents: one thing
at most at each, and nothing after a malformed document. A file has documents exactly if it can be
read and is not too large. Every scan of a root looks at the files below it in this way, and its
units and those that it counts as cancelled are the manifests. -/
theorem Batch.documents_accounted (fs : List ManifestFile) :
    Lists DocumentPlace.Before (fun place m => Gives fs place (.ok m)) (ofFiles fs).manifests ∧
    Lists DocumentPlace.Before (fun place s => ∃ e, Gives fs place (.error e) ∧ s = skip e)
      (ofFiles fs).skipped ∧
    (∀ f i r r', ManifestFile.Gives f i r → f.Gives i r' → r = r') ∧
    (∀ f i j e r, ManifestFile.Gives f i (.error (.malformed f.path i e)) → f.Gives j r → j ≤ i) ∧
    (∀ files maxBytes path content, (ManifestFile.read files maxBytes path).content = .ok content ↔
      ∃ bytes, files.read path = .ok bytes ∧ bytes.length ≤ maxBytes ∧
        content = ⟨Digest.sha256Text bytes, Yaml.documents (Text.normalizeBytes bytes)⟩) ∧
    (∀ stopped files root options r, scanUnless stopped files root options = .ok r →
      ∃ config loading paths batch analysis,
        configFor files root options.configPath = .ok config ∧
        LoadOptions.ofSettings config.scan = .ok loading ∧
        manifestFiles files root loading = .ok paths ∧
        batch = ofFiles (paths.map (ManifestFile.read files loading.maxFileBytes)) ∧
        prepare files root config = .ok (batch, analysis) ∧
        r.Accounts batch analysis (options.policy config) stopped) := by
  refine ⟨lists_manifests fs, lists_skipped fs, fun _ _ _ _ => ManifestFile.Gives.unique,
    fun _ _ _ _ _ => ManifestFile.Gives.le_malformed,
    fun _ _ _ _ => ManifestFile.content_read_eq_ok_iff, ?_⟩
  intro stopped files root options r scanned
  obtain ⟨config, batch, analysis, configured, prepared, rfl⟩ := scanUnless_eq_ok_iff.mp scanned
  obtain ⟨loading, paths, settings, found, loaded⟩ := prepare_loads prepared
  exact ⟨config, loading, paths, batch, analysis, configured, settings, found, loaded, prepared,
    accounts_report _ _ _ _ _⟩

end SecretFlow

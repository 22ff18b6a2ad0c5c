import SecretFlow.Scan
import SecretFlow.Proofs.MovedFiles

set_option autoImplicit false
set_option relaxedAutoImplicit false

/-!
Roots that are a file. The folder of a root that is the bare name of a file is the empty path, which
leads nowhere, so no file is ever below it and no script is found. With a dot before the name the
folder is the current one, and the scripts beside the manifest are found. In all else the two
spellings agree.
-/

namespace SecretFlow

/-! ### Names without a separator -/

section Bare

variable {name : String}

private theorem toList_dotted (name : String) :
    ("./" ++ name).toList = '.' :: '/' :: name.toList := by
  rw [String.toList_append]
  rfl

theorem Path.isAbsolute_bare (bare : '/' ∉ name.toList) : isAbsolute name = false := by
  refine decide_eq_false fun head => ?_
  exact bare (List.mem_of_head? head)

private theorem Path.splitStart_bare (bare : '/' ∉ name.toList) (other : name ≠ ".") :
    splitStart name.toList = ([], name.toList) := by
  unfold splitStart
  split
  · rename_i rest same
    exact absurd (same ▸ List.mem_cons_self) bare
  · rename_i same
    exact absurd (String.toList_injective same) other
  · rename_i rest same
    exact absurd (same ▸ List.mem_cons_of_mem _ List.mem_cons_self) bare
  · rfl

private theorem Path.counts_bare (nonempty : name ≠ "") (other : name ≠ ".") :
    counts name.toList = true := by
  have empty : name.toList ≠ [] := fun same => nonempty (String.toList_injective same)
  have dot : name.toList ≠ ['.'] := fun same => other (String.toList_injective same)
  simp [counts, empty, dot]

private theorem Path.parent?_bare (bare : '/' ∉ name.toList) (nonempty : name ≠ "")
    (other : name ≠ ".") : parent? name = some "" := by
  have kept : dropIdleEnd [name.toList] = [name.toList] := by
    simp [dropIdleEnd, counts_bare nonempty other]
  unfold parent?
  rw [splitStart_bare bare other]
  simp only [List.splitOn_eq_singleton bare, kept]
  rfl

private theorem Path.parent?_dotted (bare : '/' ∉ name.toList) (nonempty : name ≠ "")
    (other : name ≠ ".") : parent? ("./" ++ name) = some "." := by
  have pieces : ('/' :: name.toList).splitOn '/' = [[], name.toList] := by
    have split := List.splitOn_append_cons_self_of_not_mem (List.not_mem_nil (a := '/')) name.toList
    rwa [List.splitOn_eq_singleton bare] at split
  have kept : dropIdleEnd [[], name.toList] = [[], name.toList] := by
    simp [dropIdleEnd, counts_bare nonempty other]
  have start : splitStart ('.' :: '/' :: name.toList) = (['.'], '/' :: name.toList) := rfl
  unfold parent?
  rw [toList_dotted, start]
  simp only [pieces, kept]
  rfl

private theorem FileTree.pieces_bare (bare : '/' ∉ name.toList) (nonempty : name ≠ "") :
    pieces name = [name] := by
  have empty : name.toList ≠ [] := fun same => nonempty (String.toList_injective same)
  have last : name.toList.getLast? ≠ some '/' := fun same => bare (List.mem_of_getLast? same)
  unfold pieces
  rw [if_neg last, List.splitOn_eq_singleton bare]
  simp [empty]

private theorem FileTree.pieces_dotted (bare : '/' ∉ name.toList) (nonempty : name ≠ "") :
    pieces ("./" ++ name) = [".", name] := by
  have empty : name.toList ≠ [] := fun same => nonempty (String.toList_injective same)
  have split : ('.' :: '/' :: name.toList).splitOn '/' = [['.'], name.toList] := by
    have dot : '/' ∉ ['.'] := by decide
    have split := List.splitOn_append_cons_self_of_not_mem dot name.toList
    rwa [List.splitOn_eq_singleton bare] at split
  have last : ('.' :: '/' :: name.toList).getLast? ≠ some '/' := by
    obtain ⟨c, hc⟩ := Option.ne_none_iff_exists'.mp (mt List.getLast?_eq_none_iff.mp empty)
    intro same
    rw [List.getLast?_cons, List.getLast?_cons, hc] at same
    obtain rfl : c = '/' := by simpa using same
    exact bare (List.mem_of_getLast? hc)
  unfold pieces
  rw [toList_dotted, if_neg last, split]
  simp [empty]

theorem FileTree.follow_one (t : FileTree) (place : Location) (piece : String) :
    t.follow place [piece] = t.step place piece := by
  rw [follow]
  split
  · rename_i found
    rw [found, follow]
  · rename_i missing
    rw [missing]

private theorem FileTree.locate_bare (t : FileTree) (bare : '/' ∉ name.toList)
    (nonempty : name ≠ "") : t.locate name = t.step t.here name := by
  have named : ¬ name.isEmpty = true := by
    simpa using nonempty
  rw [locate, if_neg named, pieces_bare bare nonempty, Path.isAbsolute_bare bare, follow_one]
  rfl

private theorem FileTree.locate_dotted (t : FileTree) (bare : '/' ∉ name.toList)
    (nonempty : name ≠ "") : t.locate ("./" ++ name) = t.locate name := by
  have relative : Path.isAbsolute ("./" ++ name) = false := by
    rw [Path.isAbsolute, toList_dotted]
    rfl
  have filled : ¬ ("./" ++ name).isEmpty = true := by
    simp
  -- the dot needs a folder, and so does the name
  have folder : t.step t.here "." = .ok t.here ∨
      ∃ e, t.step t.here "." = .error e ∧ t.step t.here name = .error e := by
    unfold step
    split
    · exact .inr ⟨_, rfl, rfl⟩
    · exact .inr ⟨_, rfl, rfl⟩
    · exact .inl rfl
  rw [t.locate_bare bare nonempty, locate, if_neg filled, pieces_dotted bare nonempty, relative,
    if_neg Bool.false_ne_true, follow]
  rcases folder with here | ⟨e, dot, missing⟩
  · rw [here]
    exact t.follow_one t.here name
  · rw [dot, missing]

private theorem FileTree.entry_dotted (t : FileTree) (bare : '/' ∉ name.toList)
    (nonempty : name ≠ "") : t.entry ("./" ++ name) = t.entry name := by
  rw [entry, entry, t.locate_dotted bare nonempty]

private theorem FileTree.isFile_dotted (t : FileTree) (bare : '/' ∉ name.toList)
    (nonempty : name ≠ "") : t.isFile ("./" ++ name) = t.isFile name := by
  rw [isFile, isFile, t.entry_dotted bare nonempty]

end Bare

theorem FileTree.step_eq_ok {t : FileTree} {place next : Location} {piece : String}
    (goes : t.step place piece = .ok next) :
    (∃ entries, t.top.at? place = some (.folder entries)) ∧ (piece = "." → next = place) ∧
      (piece ≠ "." → piece ≠ ".." → next = place ++ [piece]) := by
  unfold step at goes
  split at goes
  · cases goes
  · cases goes
  · rename_i entries folder
    refine ⟨⟨entries, folder⟩, ?_, ?_⟩
    · intro dot
      rw [if_pos dot] at goes
      exact (Except.ok.inj goes).symm
    · intro other up
      rw [if_neg other, if_neg up] at goes
      split at goes
      · exact (Except.ok.inj goes).symm
      · cases goes

theorem FileTree.exists_of_isFile {t : FileTree} {path : String} (isFile : t.isFile path = true) :
    ∃ place bytes, t.locate path = .ok place ∧ t.top.at? place = some (.file bytes) := by
  unfold FileTree.isFile entry at isFile
  cases located : t.locate path with
  | error e =>
    rw [located] at isFile
    cases isFile
  | ok place =>
    rw [located] at isFile
    dsimp only at isFile
    cases found : t.top.at? place with
    | none =>
      rw [found] at isFile
      cases isFile
    | some entry =>
      rw [found] at isFile
      cases entry with
      | file bytes => exact ⟨place, bytes, rfl, found⟩
      | folder entries => cases isFile

private theorem FileTree.ne_of_isFile {t : FileTree} {name : String}
    (isFile : t.isFile name = true) : name ≠ "" ∧ name ≠ "." := by
  constructor
  · rintro rfl
    cases isFile
  · rintro rfl
    obtain ⟨place, bytes, located, file⟩ := exists_of_isFile isFile
    rw [t.locate_bare (by decide) (by decide)] at located
    obtain ⟨⟨entries, folder⟩, stays, -⟩ := step_eq_ok located
    rw [stays rfl, folder] at file
    cases file

/-! ### Scripts -/

/-- The resolver without the files of the tree. -/
def Resolver.withoutFiles (resolve : Resolver) : Resolver
  | .path path => .error (.notFound (ScriptRef.path path).key)
  | ref => resolve ref

private theorem ScriptSource.resolve_of_empty_root {s : ScriptSource} (empty : s.scanRoot = "")
    (path : String) : s.resolve (.path path) = .error (.notFound (ScriptRef.path path).key) := by
  have outside (c : String) : s.withinRoot c = false := by
    have nowhere : s.files.locate s.scanRoot = .error .missing := by
      rw [empty]
      rfl
    unfold withinRoot
    rw [nowhere]
    split
    · rename_i found
      cases found
    · rfl
  have none : (s.candidates path).find? (fun c => s.files.isFile c && s.withinRoot c) = none := by
    simp [outside]
  unfold resolve
  dsimp only
  rw [none, ite_self]

private theorem Path.ofComponents_bare {name : String} (bare : '/' ∉ name.toList)
    (nonempty : name ≠ "") : ofComponents ((components name).filter (· ≠ .root)) = name := by
  have single (c : Component) : ofComponents [c] = c.text := by
    simp [ofComponents, join]
  by_cases other : name = "."
  · subst other
    decide
  · have whole : components name = [pieceComponent name.toList] := by
      unfold components
      rw [splitStart_bare bare other]
      simp only [List.splitOn_eq_singleton bare]
      simp [startComponent, counts_bare nonempty other]
    rw [whole]
    unfold pieceComponent
    split
    · rename_i up
      have same : name = ".." := String.toList_injective up
      subst same
      decide
    · rw [List.filter_cons_of_pos (by simp), List.filter_nil, single]
      exact String.ofList_toList

private theorem ScriptSource.resolve_beside {s : ScriptSource} (dir : s.manifestDir = ".")
    (root : s.scanRoot = ".") {script : String} (bare : '/' ∉ script.toList)
    (fixed : '$' ∉ script.toList) (up : script ≠ "..") {bytes : Text.Utf8.Bytes}
    (holds : s.files.read script = .ok bytes) (small : bytes.length ≤ s.maxBytes) :
    s.resolve (.path script) = .ok (Text.normalizeBytes bytes) := by
  have found : s.files.entry script = .ok (.file bytes) := by
    unfold FileTree.read at holds
    split at holds
    · rename_i file
      rw [file, Except.ok.inj holds]
    · cases holds
    · cases holds
  have isFile : s.files.isFile script = true := by
    rw [FileTree.isFile, found]
    rfl
  obtain ⟨nonempty, other⟩ := FileTree.ne_of_isFile isFile
  have first : Path.join "." script = "./" ++ script := by
    rw [Path.join, Path.isAbsolute_bare bare]
    rfl
  have within : s.withinRoot ("./" ++ script) = true := by
    have place := s.files.locate_bare bare nonempty
    cases goes : s.files.step s.files.here script with
    | error e =>
      rw [FileTree.entry, place, goes] at found
      cases found
    | ok next =>
      obtain ⟨⟨entries, folder⟩, -, below⟩ := FileTree.step_eq_ok goes
      have here : s.files.locate "." = .ok s.files.here := by
        rw [s.files.locate_bare (by decide) (by decide), FileTree.step, folder]
        rfl
      unfold withinRoot
      rw [root, here, s.files.locate_dotted bare nonempty, place, goes, below other up]
      simp
  have taken : (s.candidates script).find? (fun c => s.files.isFile c && s.withinRoot c) =
      some ("./" ++ script) := by
    unfold candidates
    dsimp only
    rw [dir, Path.ofComponents_bare bare nonempty, first, List.cons_append, List.find?_cons_of_pos]
    rw [s.files.isFile_dotted bare nonempty, isFile, within]
    rfl
  have free : script.contains '$' = false := by
    rw [String.contains_char_eq]
    exact decide_eq_false fixed
  have size : ¬ (Entry.file bytes).size > s.maxBytes := Nat.not_lt.mpr small
  unfold resolve
  dsimp only
  rw [free, taken]
  simp only [readScript]
  rw [s.files.entry_dotted bare nonempty, found]
  simp only [if_neg size]
  rfl

/-! ### Loading -/

private theorem Batch.manifests_loadFrom (file other hash : String) (i : Nat)
    (docs : List (Except Yaml.YamlError Yaml.Value)) :
    (ofLoaded (Manifest.loadFrom file hash i docs)).manifests =
      (ofLoaded (Manifest.loadFrom other hash i docs)).manifests.map (·.movedTo file) := by
  induction docs generalizing i with
  | nil => rfl
  | cons doc docs ih =>
    cases doc with
    | error e => rfl
    | ok doc =>
      rw [Manifest.loadFrom, Manifest.loadFrom]
      split
      · exact ih (i + 1)
      · split
        · exact ih (i + 1)
        · exact congrArg (List.cons _) (ih (i + 1))

private theorem Batch.manifests_ofFiles {files : FileTree} {file other : String}
    (same : files.entry file = files.entry other) (maxBytes : Nat) :
    (ofFiles [ManifestFile.read files maxBytes file]).manifests =
      (ofFiles [ManifestFile.read files maxBytes other]).manifests.map (·.movedTo file) := by
  have content : FileContent.read files maxBytes file = FileContent.read files maxBytes other := by
    rw [FileContent.read, FileContent.read, same]
  simp only [ofFiles, List.flatMap_singleton, ManifestFile.load, ManifestFile.read, content]
  split
  · rfl
  · exact manifests_loadFrom file other _ 0 _

private theorem Batch.file_of_mem_ofFiles {files : FileTree} {file : String} {maxBytes : Nat}
    {m : Manifest}
    (hm : m ∈ (ofFiles [ManifestFile.read files maxBytes file]).manifests) : m.file = file := by
  rw [manifests_ofFiles rfl maxBytes] at hm
  obtain ⟨_, _, rfl⟩ := List.mem_map.mp hm
  rfl

private theorem Cluster.ofManifests_movedTo (file : String) (ms : List Manifest) :
    ofManifests (ms.map (·.movedTo file)) = ofManifests ms :=
  List.foldl_map

private theorem prepare_of_isFile {files : FileTree} {root : String} (config : Config)
    (isFile : files.isFile root = true) : prepare files root config =
      match LoadOptions.ofSettings config.scan, SinkRule.ofPatterns config.sinks.effective with
      | .error e, _ => .error e
      | .ok _, .error e => .error (.sinkPattern e)
      | .ok options, .ok rules =>
        let batch := Batch.ofFiles [ManifestFile.read files options.maxFileBytes root]
        .ok (batch, .ofBatch files root config rules batch) := by
  obtain ⟨place, bytes, located, file⟩ := FileTree.exists_of_isFile isFile
  have only (options : LoadOptions) : manifestFiles files root options = .ok [root] := by
    simp only [manifestFiles, located, file]
  have loaded (options : LoadOptions) : Batch.load files root options =
      .ok (Batch.ofFiles [ManifestFile.read files options.maxFileBytes root]) := by
    rw [Batch.load, only]
    rfl
  unfold prepare
  cases LoadOptions.ofSettings config.scan with
  | error e => rfl
  | ok options =>
    simp only [bind, Except.bind, loaded]
    cases SinkRule.ofPatterns config.sinks.effective <;> rfl

private theorem Analysis.sourceOf_of_isFile {files : FileTree} {root folder : String}
    (config : Config) (rules : List SinkRule) (batch : Batch) (isFile : files.isFile root = true)
    (parent : Path.parent? root = some folder) {m : Manifest} (file : m.file = root) :
    (Analysis.ofBatch files root config rules batch).sourceOf m =
      ⟨files, folder, folder, Cluster.ofManifests batch.manifests, config.scan.maxFileBytes⟩ := by
  have scanRoot : rootFolder files root = folder := by
    rw [rootFolder, if_pos isFile, parent]
    rfl
  simp only [sourceOf, ofBatch, scanRoot, file, parent]
  rfl

private theorem ScriptSource.resolve_empty (files : FileTree) (folder : String) (cluster : Cluster)
    (maxBytes : Nat) : ScriptSource.resolve ⟨files, "", "", cluster, maxBytes⟩ =
      (ScriptSource.resolve ⟨files, folder, folder, cluster, maxBytes⟩).withoutFiles := by
  funext ref
  cases ref with
  | path path => exact resolve_of_empty_root rfl path
  | configMap name key => rfl
  | inline label text => rfl

private theorem Resolver.withoutFiles_resolves_iff (resolve : Resolver) :
    (∀ ref text, resolve.withoutFiles ref = .ok text ↔ resolve ref = .ok text) ↔
      ∀ path text, resolve (.path path) ≠ .ok text := by
  constructor
  · intro same path text found
    have without := (same (.path path) text).mpr found
    cases without
  · intro none ref text
    cases ref with
    | path path => exact ⟨nofun, fun found => absurd found (none path text)⟩
    | configMap name key => exact Iff.rfl
    | inline label text => exact Iff.rfl

/-- A root that is a bare file name finds no script file. For every tree, two scans of a file of the
current folder, one by its bare name and one with a dot before it, load the same manifests but for
the name of the file. By the bare name every path is not found, while with the dot the scripts
beside the manifest are; all other references resolve alike. So the scans resolve the same
references exactly if the one with the dot finds no file, and the graph by the bare name is the one
that the scan with the dot would build without files, but for the name of the file in the origins.
-/
theorem bare_root_finds_no_file {files : FileTree} {name : String} (config : Config)
    (bare : '/' ∉ name.toList) (isFile : files.isFile name = true) :
    (∀ e, prepare files name config = .error e ↔ prepare files ("./" ++ name) config = .error e) ∧
    ∀ batch a, prepare files name config = .ok (batch, a) → ∃ dotted b,
      prepare files ("./" ++ name) config = .ok (dotted, b) ∧
      dotted.manifests = batch.manifests.map (·.movedTo ("./" ++ name)) ∧
      ∀ m ∈ batch.manifests,
        let n := m.movedTo ("./" ++ name)
        (a.sourceOf m).resolve = (b.sourceOf n).resolve.withoutFiles ∧
        (∀ script bytes, '/' ∉ script.toList → '$' ∉ script.toList → script ≠ ".." →
          files.read script = .ok bytes → bytes.length ≤ config.scan.maxFileBytes →
          (b.sourceOf n).resolve (.path script) = .ok (Text.normalizeBytes bytes)) ∧
        ((∀ ref text, (a.sourceOf m).resolve ref = .ok text ↔ (b.sourceOf n).resolve ref = .ok text) ↔
          ∀ path text, (b.sourceOf n).resolve (.path path) ≠ .ok text) ∧
        b.graphWith (b.sourceOf n).resolve.withoutFiles n =
          (a.graph m).movedTo ("./" ++ name) n.unitId := by
  obtain ⟨nonempty, other⟩ := FileTree.ne_of_isFile isFile
  have dotted : files.isFile ("./" ++ name) = true := by
    rw [files.isFile_dotted bare nonempty, isFile]
  rw [prepare_of_isFile config isFile, prepare_of_isFile config dotted]
  cases LoadOptions.ofSettings config.scan with
  | error e => exact ⟨fun f => Iff.rfl, nofun⟩
  | ok options =>
    cases SinkRule.ofPatterns config.sinks.effective with
    | error e => exact ⟨fun f => Iff.rfl, nofun⟩
    | ok rules =>
      refine ⟨fun e => ⟨nofun, nofun⟩, ?_⟩
      intro batch a prepared
      obtain ⟨rfl, rfl⟩ := Prod.mk.inj (Except.ok.inj prepared)
      have moved := Batch.manifests_ofFiles (files.entry_dotted bare nonempty) options.maxFileBytes
      refine ⟨_, _, rfl, moved, ?_⟩
      intro m hm
      have cluster := Cluster.ofManifests_movedTo ("./" ++ name)
        (Batch.ofFiles [ManifestFile.read files options.maxFileBytes name]).manifests
      rw [← moved] at cluster
      have source := Analysis.sourceOf_of_isFile config rules
        (Batch.ofFiles [ManifestFile.read files options.maxFileBytes name]) isFile
        (Path.parent?_bare bare nonempty other) (Batch.file_of_mem_ofFiles hm)
      dsimp only
      rw [Analysis.graph, source,
        Analysis.sourceOf_of_isFile config rules _ dotted (Path.parent?_dotted bare nonempty other) rfl,
        cluster, ScriptSource.resolve_empty files "."]
      refine ⟨rfl, ?_, Resolver.withoutFiles_resolves_iff _, ?_⟩
      · intro script bytes beside fixed up holds small
        exact ScriptSource.resolve_beside rfl rfl beside fixed up holds small
      · have graph := m.flowGraph_movedTo ("./" ++ name)
          ⟨config.analysis.maxReferenceDepth, rules, config.identifiers⟩
          (some (Cluster.ofManifests
            (Batch.ofFiles [ManifestFile.read files options.maxFileBytes name]).manifests))
        simp only [Analysis.graphWith, Analysis.ofBatch, cluster, graph]

def scriptedPod : FileTree :=
  .ofFiles [] [("pod.yaml", Text.Utf8.encode
      ("apiVersion: v1\nkind: Pod\nmetadata:\n  name: job\nspec:\n  containers:\n" ++
        "    - name: app\n      command: [sh, run.sh]\n")),
    ("run.sh", Text.Utf8.encode "echo $TOKEN")]

theorem bare_root_finds_no_file_scriptedPod :
    '/' ∉ "pod.yaml".toList ∧ scriptedPod.isFile "pod.yaml" = true ∧
    ∀ config : Config, 11 ≤ config.scan.maxFileBytes →
      ∀ batch a, prepare scriptedPod "pod.yaml" config = .ok (batch, a) → ∃ dotted b,
        prepare scriptedPod "./pod.yaml" config = .ok (dotted, b) ∧
        ∀ m ∈ batch.manifests,
          (a.sourceOf m).resolve (.path "run.sh") = .error (.notFound "file:run.sh") ∧
          (b.sourceOf (m.movedTo "./pod.yaml")).resolve (.path "run.sh") = .ok "echo $TOKEN" := by
  have bare : '/' ∉ "pod.yaml".toList := by decide
  have isFile : scriptedPod.isFile "pod.yaml" = true := by decide +kernel
  refine ⟨bare, isFile, ?_⟩
  intro config room batch a prepared
  obtain ⟨-, runs⟩ := bare_root_finds_no_file config bare isFile
  obtain ⟨dotted, b, hb, -, each⟩ := runs batch a prepared
  refine ⟨dotted, b, hb, ?_⟩
  intro m hm
  obtain ⟨without, beside, -⟩ := each m hm
  have script : scriptedPod.read "run.sh" = .ok (Text.Utf8.encode "echo $TOKEN") := by
    rfl
  have size : (Text.Utf8.encode "echo $TOKEN").length = 11 := by
    decide +kernel
  have text : Text.normalizeBytes (Text.Utf8.encode "echo $TOKEN") = "echo $TOKEN" := by
    decide +kernel
  refine ⟨?_, ?_⟩
  · rw [without]
    rfl
  · rw [← text]
    exact beside "run.sh" _ (by decide) (by decide) (by decide) script (by rw [size]; exact room)

/-- A script beside a manifest is found with a dot before the name of the manifest only. -/
theorem bare_root_loses_script :
    let config : Config := { sinks := { useDefaults := false } }
    let found (root : String) := (prepare scriptedPod root config).toOption.map fun r =>
      r.1.manifests.map fun m => ((r.2.sourceOf m).resolve (.path "run.sh")).toOption
    found "pod.yaml" = some [none] ∧ found "./pod.yaml" = some [some "echo $TOKEN"] := by
  simp only [ScriptSource.resolve, String.contains_char_eq]
  decide +kernel

end SecretFlow

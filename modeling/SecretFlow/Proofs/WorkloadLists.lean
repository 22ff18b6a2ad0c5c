import SecretFlow.Proofs.ListElements

set_option autoImplicit false
set_option relaxedAutoImplicit false

/-!
The lists of a workload: the containers and volumes of its pod, and the words, variables, imports
and mounts of each container. None of their elements is lost without a word, and all entries have
fields of their own.
-/

namespace SecretFlow

open SecretFlow.Yaml (Value)

/-- The fields of a container and of the entries of its lists. Words have none. -/
def Container.entryFields (c : Container) : List String :=
  c.field :: (c.env.map (·.field) ++ c.envFrom.map (·.field) ++ c.mounts.map (·.field))

def PodSpec.entryFields (pod : PodSpec) : List String :=
  pod.containers.flatMap (·.entryFields) ++ pod.volumes.map (·.field)

structure Container.Accounts (doc : Value) (issues : List FieldIssue) (c : Container) : Prop where
  command : Manifest.Accounted Manifest.wordRule doc issues s!"{c.field}.command" c.command
  args : Manifest.Accounted Manifest.wordRule doc issues s!"{c.field}.args" c.args
  env : Manifest.Accounted Manifest.envRule doc issues s!"{c.field}.env" c.env
  envFrom : Manifest.Accounted Manifest.importRule doc issues s!"{c.field}.envFrom" c.envFrom
  mounts : Manifest.Accounted Manifest.mountRule doc issues s!"{c.field}.volumeMounts" c.mounts

/-- The lists of a pod and those of its containers are accounted for, and no two entries share a
field. -/
structure PodSpec.Accounts (doc : Value) (issues : List FieldIssue) (pod : PodSpec) : Prop where
  containers : ∃ initial regular, pod.containers = initial ++ regular ∧
    Manifest.Accounted Manifest.containerRule doc issues s!"{pod.field}.initContainers" initial ∧
    Manifest.Accounted Manifest.containerRule doc issues s!"{pod.field}.containers" regular
  volumes : Manifest.Accounted Manifest.volumeRule doc issues s!"{pod.field}.volumes" pod.volumes
  lists : ∀ c ∈ pod.containers, c.Accounts doc issues
  distinct : pod.entryFields.Nodup

namespace Manifest

variable {α : Type} {read : String → Value → Noted (Option α)} {path : FieldPath} {field : String}
  {doc : Value} {issues : List FieldIssue}

private theorem accounted_below {rule : ListRule α} (reads : rule.Reads read)
    (spells : path.Spells field)
    {value : Option Value} (holds : doc.along path = value) (name rest : String)
    (plain : (FieldStep.key name).plain = true) (written : rest.toList = '.' :: name.toList)
    (agree : FieldPath.Agree (path ++ [.key name]) issues
      (readEach read s!"{field}{rest}" (value.bind (·.get? name))).issues) :
    Accounted rule doc issues s!"{field}{rest}"
      (readEach read s!"{field}{rest}" (value.bind (·.get? name))).value := by
  refine accounted_readEach reads (spells.member name rest plain written) ?_ agree
  rw [Value.along_concat, holds]
  rfl

private theorem exists_of_mem_readEach {value : Option Value} {entry : α}
    (kept : entry ∈ (readEach read field value).value) :
    ∃ (items : List Value) (j : Nat) (item : Value), value = some (.sequence items) ∧
      items[j]? = some item ∧ (read s!"{field}[{j}]" item).value = some entry := by
  cases value with
  | none => exact absurd kept List.not_mem_nil
  | some v =>
    cases v with
    | null | bool | integer | real | text | mapping | tagged => exact absurd kept List.not_mem_nil
    | sequence items =>
      rw [readEach_eq] at kept
      obtain ⟨⟨item, j⟩, stands, eq⟩ := List.mem_filterMap.mp kept
      exact ⟨items, j, item, rfl, List.mk_mem_zipIdx_iff_getElem?.mp stands, eq⟩

/-! ### Containers -/

def containerIssues (field : String) (item : Value) : List (FieldStep × List FieldIssue) :=
  [(.key "command", (readEach readScalar s!"{field}.command" (item.get? "command")).issues),
    (.key "args", (readEach readScalar s!"{field}.args" (item.get? "args")).issues),
    (.key "env", (readEach readEnv s!"{field}.env" (item.get? "env")).issues),
    (.key "envFrom", (readEach readEnvImport s!"{field}.envFrom" (item.get? "envFrom")).issues),
    (.key "volumeMounts",
      (readEach readMount s!"{field}.volumeMounts" (item.get? "volumeMounts")).issues)]

private theorem containerIssues_apart (spells : path.Spells field) (item : Value) :
    path.Apart (·.field) (containerIssues field item) where
  within := by
    simp only [containerIssues, List.forall_mem_cons, List.not_mem_nil, false_implies, implies_true,
      and_true]
    exact ⟨within_readEach reads_word (spells.member "command" ".command" rfl rfl) _,
      within_readEach reads_word (spells.member "args" ".args" rfl rfl) _,
      within_readEach reads_env (spells.member "env" ".env" rfl rfl) _,
      within_readEach reads_import (spells.member "envFrom" ".envFrom" rfl rfl) _,
      within_readEach reads_mount (spells.member "volumeMounts" ".volumeMounts" rfl rfl) _⟩
  once := by
    simp only [containerIssues, List.map_cons, List.map_nil]
    decide

private theorem readContainer_of_name {item : Value} {name : String}
    (named : item.textAt? "name" = some name) :
    readContainer field item =
      ⟨some
        { name, field
          command := (readEach readScalar s!"{field}.command" (item.get? "command")).value
          args := (readEach readScalar s!"{field}.args" (item.get? "args")).value
          env := (readEach readEnv s!"{field}.env" (item.get? "env")).value
          envFrom := (readEach readEnvImport s!"{field}.envFrom" (item.get? "envFrom")).value
          mounts := (readEach readMount s!"{field}.volumeMounts" (item.get? "volumeMounts")).value },
        (containerIssues field item).flatMap (·.2)⟩ := by
  unfold readContainer
  rw [named]
  rfl

private theorem readContainer_of_nameless {item : Value} (nameless : item.textAt? "name" = none) :
    readContainer field item = ⟨none, [⟨field, containerRule.complaint⟩]⟩ := by
  unfold readContainer
  rw [nameless]
  rfl

private theorem reads_container : containerRule.Reads readContainer := by
  intro path field item spells
  cases named : item.textAt? "name" with
  | none =>
    exact .inr ⟨by simp [containerRule, namedRule, named], readContainer_of_nameless named⟩
  | some name =>
    exact .inl ⟨by simp [containerRule, namedRule, named], _, _, readContainer_of_name named,
      ⟨named, rfl⟩, (containerIssues_apart spells item).beyond⟩

private theorem accounts_container {item : Value} {c : Container} (spells : path.Spells field)
    (holds : doc.along path = some item) (kept : (readContainer field item).value = some c)
    (agree : path.Agree issues (readContainer field item).issues) : c.Accounts doc issues := by
  cases named : item.textAt? "name" with
  | none =>
    rw [readContainer_of_nameless named] at kept
    cases kept
  | some name =>
    rw [readContainer_of_name named] at kept agree
    obtain rfl := Option.some.inj kept
    have part {step : FieldStep} {piece : List FieldIssue}
        (stands : (step, piece) ∈ containerIssues field item) :
        FieldPath.Agree (path ++ [step]) issues piece :=
      agree.trans ((containerIssues_apart spells item).agree stands)
    exact {
      command := accounted_below reads_word spells holds "command" ".command" rfl rfl (part (.head _))
      args := accounted_below reads_word spells holds "args" ".args" rfl rfl
        (part (.tail _ (.head _)))
      env := accounted_below reads_env spells holds "env" ".env" rfl rfl
        (part (.tail _ (.tail _ (.head _))))
      envFrom := accounted_below reads_import spells holds "envFrom" ".envFrom" rfl rfl
        (part (.tail _ (.tail _ (.tail _ (.head _)))))
      mounts := accounted_below reads_mount spells holds "volumeMounts" ".volumeMounts" rfl rfl
        (part (.tail _ (.tail _ (.tail _ (.tail _ (.head _)))))) }

private theorem accounts_of_mem {value : Option Value} {c : Container} (spells : path.Spells field)
    (holds : doc.along path = value)
    (agree : path.Agree issues (readEach readContainer field value).issues)
    (kept : c ∈ (readEach readContainer field value).value) : c.Accounts doc issues := by
  obtain ⟨items, j, item, rfl, stands, eq⟩ := exists_of_mem_readEach kept
  refine accounts_container (spells.index j) ?_ eq
    (agree.trans (agree_element reads_container spells stands))
  rw [Value.along_concat, holds]
  exact stands

/-! ### Pods -/

def podIssues (field : String) (spec : Option Value) : List (FieldStep × List FieldIssue) :=
  [(.key "initContainers", (readEach readContainer s!"{field}.initContainers"
      (spec.bind (·.get? "initContainers"))).issues),
    (.key "containers", (readEach readContainer s!"{field}.containers"
      (spec.bind (·.get? "containers"))).issues),
    (.key "volumes", (readEach readVolume s!"{field}.volumes"
      (spec.bind (·.get? "volumes"))).issues)]

private theorem podIssues_apart (spells : path.Spells field) (spec : Option Value) :
    path.Apart (·.field) (podIssues field spec) where
  within := by
    simp only [podIssues, List.forall_mem_cons, List.not_mem_nil, false_implies, implies_true,
      and_true]
    exact ⟨within_readEach reads_container (spells.member "initContainers" ".initContainers" rfl rfl) _,
      within_readEach reads_container (spells.member "containers" ".containers" rfl rfl) _,
      within_readEach reads_volume (spells.member "volumes" ".volumes" rfl rfl) _⟩
  once := by
    simp only [podIssues, List.map_cons, List.map_nil]
    decide

private theorem value_readPod (field : String) (spec : Option Value) :
    (readPod field spec).value = .workload
      { field
        containers :=
          (readEach readContainer s!"{field}.initContainers"
            (spec.bind (·.get? "initContainers"))).value ++
          (readEach readContainer s!"{field}.containers" (spec.bind (·.get? "containers"))).value
        volumes := (readEach readVolume s!"{field}.volumes" (spec.bind (·.get? "volumes"))).value } := by
  cases spec <;> rfl

private theorem agree_readPod (spells : path.Spells field) (spec : Option Value) {step : FieldStep}
    {piece : List FieldIssue} (stands : (step, piece) ∈ podIssues field spec) :
    FieldPath.Agree (path ++ [step]) (readPod field spec).issues piece := by
  cases spec with
  | some v => exact (podIssues_apart spells (some v)).agree stands
  | none =>
    have silent : piece = [] := by
      simp only [podIssues, readEach_eq, listItems, Option.bind_none, Noted.issues_pure,
        Noted.value_pure, List.zipIdx_nil, List.flatMap_nil, List.append_nil, List.mem_cons,
        Prod.mk.injEq, List.not_mem_nil, or_false] at stands
      rcases stands with ⟨-, rfl⟩ | ⟨-, rfl⟩ | ⟨-, rfl⟩ <;> rfl
    intro below said goesOn there
    rw [silent]
    refine messagesAt_eq_nil fun same => ?_
    have own : said = field := List.mem_singleton.mp same
    have length := goesOn.length_le
    rw [there.unique (own ▸ spells), List.length_append, List.length_singleton] at length
    omega

/-! ### Fields of entries -/

/-- The fields of an entry lie at the field where it was read or below, and differ. -/
def Places (read : String → Value → Noted (Option α)) (fields : α → List String) : Prop :=
  ∀ ⦃path : FieldPath⦄ ⦃field : String⦄ ⦃item : Value⦄ ⦃entry : α⦄, path.Spells field →
    (read field item).value = some entry → path.Distinct (fields entry)

private theorem ListRule.Reads.places {rule : ListRule α} (reads : rule.Reads read)
    (own : α → String)
    (shown : ∀ {field : String} {item : Value} {entry : α}, rule.Shows field item entry →
      own entry = field) :
    Places read fun entry => [own entry] := by
  intro path field item entry spells kept
  rcases reads item spells with ⟨-, other, issues, eq, shows, -⟩ | ⟨-, eq⟩
  · rw [eq] at kept
    obtain rfl := Option.some.inj kept
    obtain rfl := shown shows
    exact spells.distinct
  · rw [eq] at kept
    cases kept

private theorem Places.readEach {fields : α → List String} (places : Places read fields)
    (spells : path.Spells field) (value : Option Value) :
    path.Distinct ((Manifest.readEach read field value).value.flatMap fields) := by
  let given (j : Nat) (item : Value) : List String :=
    (read s!"{field}[{j}]" item).value.toList.flatMap fields
  have each (j : Nat) (item : Value) : FieldPath.Distinct (path ++ [.index j]) (given j item) := by
    show FieldPath.Distinct _ ((read s!"{field}[{j}]" item).value.toList.flatMap fields)
    cases found : (read s!"{field}[{j}]" item).value with
    | none => exact FieldPath.distinct_nil _
    | some entry =>
      rw [Option.toList_some, List.flatMap_singleton]
      exact places (spells.index j) found
  have distinct := FieldPath.distinct_parts
    ((listItems field value).value.zipIdx.map fun item => (.index item.2, given item.2 item.1))
    (by
      intro part hp
      obtain ⟨item, -, rfl⟩ := List.mem_map.mp hp
      exact each item.2 item.1)
    (FieldPath.nodup_items given _)
  rw [List.flatMap_map] at distinct
  rw [readEach_eq, List.filterMap_eq_flatMap_toList, List.flatMap_assoc]
  exact ⟨distinct.1.within, distinct.2⟩

private theorem Places.readEach_map {own : α → String}
    (places : Places read fun entry => [own entry])
    (spells : path.Spells field) (value : Option Value) :
    path.Distinct ((Manifest.readEach read field value).value.map own) := by
  rw [List.map_eq_flatMap]
  exact places.readEach spells value

private theorem places_container : Places readContainer (·.entryFields) := by
  intro path field item c spells kept
  cases named : item.textAt? "name" with
  | none =>
    rw [readContainer_of_nameless named] at kept
    cases kept
  | some name =>
    rw [readContainer_of_name named] at kept
    obtain rfl := Option.some.inj kept
    have env := (reads_env.places (·.field) fun shows => shows.2).readEach_map
      (spells.member "env" ".env" rfl rfl) (item.get? "env")
    have envFrom := (reads_import.places (·.field) fun shows => shows.2).readEach_map
      (spells.member "envFrom" ".envFrom" rfl rfl) (item.get? "envFrom")
    have mounts := (reads_mount.places (·.field) fun shows => shows.2.2).readEach_map
      (spells.member "volumeMounts" ".volumeMounts" rfl rfl) (item.get? "volumeMounts")
    obtain ⟨beyond, nodup⟩ := FieldPath.distinct_parts
      [(.key "env", _), (.key "envFrom", _), (.key "volumeMounts", _)]
      (List.forall_mem_cons.mpr ⟨env, List.forall_mem_cons.mpr ⟨envFrom,
        List.forall_mem_singleton.mpr mounts⟩⟩)
      (by
        simp only [List.map_cons, List.map_nil]
        decide)
    simp only [List.flatMap_cons, List.flatMap_nil, List.append_nil, ← List.append_assoc]
      at beyond nodup
    exact ⟨spells.within.append beyond.within, List.nodup_cons.mpr ⟨beyond.not_mem spells, nodup⟩⟩

private theorem nodup_pod (spells : path.Spells field) (spec : Option Value) :
    ((readEach readContainer s!"{field}.initContainers"
        (spec.bind (·.get? "initContainers"))).value.flatMap (·.entryFields) ++
      (readEach readContainer s!"{field}.containers"
        (spec.bind (·.get? "containers"))).value.flatMap (·.entryFields) ++
      (readEach readVolume s!"{field}.volumes"
        (spec.bind (·.get? "volumes"))).value.map (·.field)).Nodup := by
  have initial := places_container.readEach
    (spells.member "initContainers" ".initContainers" rfl rfl) (spec.bind (·.get? "initContainers"))
  have regular := places_container.readEach
    (spells.member "containers" ".containers" rfl rfl) (spec.bind (·.get? "containers"))
  have volumes := (reads_volume.places (·.field) fun shows => shows.2).readEach_map
    (spells.member "volumes" ".volumes" rfl rfl) (spec.bind (·.get? "volumes"))
  obtain ⟨-, nodup⟩ := FieldPath.distinct_parts
    [(.key "initContainers", _), (.key "containers", _), (.key "volumes", _)]
    (List.forall_mem_cons.mpr ⟨initial, List.forall_mem_cons.mpr ⟨regular,
      List.forall_mem_singleton.mpr volumes⟩⟩)
    (by
      simp only [List.map_cons, List.map_nil]
      decide)
  simp only [List.flatMap_cons, List.flatMap_nil, List.append_nil, ← List.append_assoc] at nodup
  exact nodup

/-! ### Workloads -/

theorem spells_podFields {kind : String} {fields : List String}
    (workload : podFields? kind = some fields) :
    FieldPath.Spells (fields.map .key) (".".intercalate fields) := by
  unfold podFields? at workload
  split at workload
  · cases workload
    exact ⟨by decide, by decide⟩
  · split at workload
    · cases workload
      exact ⟨by decide, by decide⟩
    · split at workload
      · cases workload
        exact ⟨by decide, by decide⟩
      · cases workload

/-- The pod that a document holds at a path is accounted for, also where it holds none. -/
theorem accounts_readPod (spells : path.Spells field) (doc : Value) :
    ∃ pod, (readPod field (doc.along path)).value = .workload pod ∧ pod.field = field ∧
      pod.Accounts doc (readPod field (doc.along path)).issues := by
  have initial := agree_readPod spells (doc.along path) (List.mem_cons_self ..)
  have regular := agree_readPod spells (doc.along path) (.tail _ (List.mem_cons_self ..))
  have volumes := agree_readPod spells (doc.along path) (.tail _ (.tail _ (List.mem_cons_self ..)))
  have below (name : String) :
      doc.along (path ++ [.key name]) = (doc.along path).bind (·.get? name) :=
    Value.along_concat doc path (.key name)
  refine ⟨_, value_readPod field _, rfl, ?_⟩
  exact {
    containers := ⟨_, _, rfl,
      accounted_below reads_container spells rfl "initContainers" ".initContainers" rfl rfl initial,
      accounted_below reads_container spells rfl "containers" ".containers" rfl rfl regular⟩
    volumes := accounted_below reads_volume spells rfl "volumes" ".volumes" rfl rfl volumes
    lists := by
      intro c hc
      rcases List.mem_append.mp hc with first | second
      · exact accounts_of_mem (spells.member "initContainers" ".initContainers" rfl rfl)
          (below "initContainers") initial first
      · exact accounts_of_mem (spells.member "containers" ".containers" rfl rfl)
          (below "containers") regular second
    distinct := by
      rw [PodSpec.entryFields, List.flatMap_append]
      exact nodup_pod spells _ }

theorem ofDocument_of_workload {doc : Value} {kind : String} {fields : List String}
    (kindOf : doc.textAt? "kind" = some kind) (workload : podFields? kind = some fields)
    (file : String) (docIndex : Nat) (contentHash : String) :
    let m := ofDocument doc file docIndex contentHash
    let read := readPod (".".intercalate fields) (doc.along (fields.map .key))
    m.body = read.value ∧ m.issues = read.issues := by
  intro m read
  have body : readBody kind doc = read := by
    rw [readBody, workload]
    simp only [read, Value.along_keys]
  simp only [m, ofDocument, kindOf, Option.getD_some, body, and_self]

/-- A workload has a pod, and the elements of all of its lists are accounted for: each gives one
entry or one issue at its own field. -/
theorem list_elements_accounted {doc : Value} {kind : String} {fields : List String}
    (kindOf : doc.textAt? "kind" = some kind) (workload : podFields? kind = some fields)
    (file : String) (docIndex : Nat) (contentHash : String) :
    let m := ofDocument doc file docIndex contentHash
    ∃ pod, m.pod? = some pod ∧ pod.field = ".".intercalate fields ∧ pod.Accounts doc m.issues := by
  intro m
  obtain ⟨body, issues⟩ := ofDocument_of_workload kindOf workload file docIndex contentHash
  obtain ⟨pod, value, own, accounts⟩ := accounts_readPod (spells_podFields workload) doc
  refine ⟨pod, ?_, own, issues ▸ accounts⟩
  rw [pod?, body, value]

/-- A job with a container that has no name, one with malformed words and variables, and volumes
that are no list. -/
def malformedJob : Value :=
  .mapping [(.text "apiVersion", .text "batch/v1"), (.text "kind", .text "Job"),
    (.text "metadata", .mapping [(.text "name", .text "job")]),
    (.text "spec", .mapping [(.text "template", .mapping [(.text "spec", .mapping [
      (.text "containers", .sequence [
        .mapping [(.text "command", .text "run")],
        .mapping [(.text "name", .text "app"),
          (.text "command", .sequence [.sequence [], .text "echo"]),
          (.text "env", .sequence [.text "TOKEN", .mapping [(.text "name", .text "TOKEN")]])]]),
      (.text "volumes", .text "data")])])])]

/-- The second container and its second variable are kept, with their own fields. -/
theorem malformedJob_accounted :
    let m := ofDocument malformedJob "job.yaml" 0 ""
    shapeFault? malformedJob = none ∧
    (∃ pod, m.pod? = some pod ∧ pod.field = "spec.template.spec" ∧
      pod.Accounts malformedJob m.issues) ∧
    m.pod?.map (·.entryFields) =
      some ["spec.template.spec.containers[1]", "spec.template.spec.containers[1].env[1]"] ∧
    m.issues =
      [⟨"spec.template.spec.containers[0]", "container without a name"⟩,
        ⟨"spec.template.spec.containers[1].command[0]", "expected a scalar"⟩,
        ⟨"spec.template.spec.containers[1].env[0]", "env entry without a name"⟩,
        ⟨"spec.template.spec.volumes", "expected a list"⟩] :=
  ⟨by decide +kernel,
    list_elements_accounted (show malformedJob.textAt? "kind" = some "Job" by decide +kernel)
      (show podFields? "Job" = some ["spec", "template", "spec"] by decide +kernel) "job.yaml" 0 "",
    by decide +kernel, by decide +kernel⟩

end Manifest
end SecretFlow

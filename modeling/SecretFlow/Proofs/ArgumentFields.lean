import SecretFlow.Proofs.GroundedGraphs
import SecretFlow.Proofs.WorkloadLists

set_option autoImplicit false
set_option relaxedAutoImplicit false

/-!
The fields of a container's words. A word knows its position among the words that were read, not its
position in the document, so its field counts only the elements that gave a word. It names the
element that the word stands in exactly if none before it was left out.
-/

namespace SecretFlow

open SecretFlow.Yaml (Value)

/-! ### Words in their list -/

/-- The element at a position of the list that a document has at a field gives a word, after a
number of others that give one. -/
structure WordAt (doc : Value) (field : String) (items : List Value) (position earlier : Nat)
    (word : String) : Prop where
  list : doc.field? field = some (.sequence items)
  given : (items[position]?).bind (·.scalarText?) = some word
  count : (items.take position).countP (·.scalarText?.isSome) = earlier

namespace Manifest

private theorem exists_of_getElem?_filterMap {α β : Type} {f : α → Option β} {items : List α}
    {k : Nat} {b : β} (found : (items.filterMap f)[k]? = some b) :
    ∃ j, (items[j]?).bind f = some b ∧ (items.take j).countP (fun a => (f a).isSome) = k := by
  induction items generalizing k with
  | nil => cases found
  | cons a items ih =>
    cases given : f a with
    | none =>
      rw [List.filterMap_cons_none given] at found
      obtain ⟨j, stands, count⟩ := ih found
      exact ⟨j + 1, stands, by simp [given, count]⟩
    | some c =>
      rw [List.filterMap_cons_some given] at found
      cases k with
      | zero => exact ⟨0, by simpa [given] using found, rfl⟩
      | succ k =>
        obtain ⟨j, stands, count⟩ := ih found
        exact ⟨j + 1, stands, by simp [given, count]⟩

variable {doc : Value} {issues : List FieldIssue} {field word : String} {words : List String}
  {k : Nat}

private theorem words_of_accounted {items : List Value}
    (accounted : Accounted wordRule doc issues field words)
    (list : doc.field? field = some (.sequence items)) :
    words = items.filterMap (·.scalarText?) := by
  unfold Accounted at accounted
  rw [list] at accounted
  obtain ⟨-, kept, length, rfl, each⟩ := accounted
  have same : kept = items.map (·.scalarText?) := by
    refine List.ext_getElem? fun j => ?_
    rw [List.getElem?_map]
    cases stands : items[j]? with
    | none =>
      have beyond : items.length ≤ j := List.getElem?_eq_none_iff.mp stands
      exact List.getElem?_eq_none (length ▸ beyond)
    | some item =>
      have here := each j item stands
      split at here
      · obtain ⟨-, entry, there, shows⟩ := here
        rw [there]
        exact congrArg some shows.symm
      · rename_i unusable
        have absent : item.scalarText? = none := by simpa [wordRule] using unusable
        rw [here.2, Option.map_some, absent]
  rw [same, List.reduceOption, List.filterMap_map]
  rfl

private theorem exists_wordAt (accounted : Accounted wordRule doc issues field words)
    (stands : words[k]? = some word) : ∃ items j, WordAt doc field items j k word := by
  have listed : ∃ items, doc.field? field = some (.sequence items) := by
    have some_word : words ≠ [] := by
      rintro rfl
      cases stands
    unfold Accounted at accounted
    split at accounted
    · exact absurd accounted.1 some_word
    · exact absurd accounted.1 some_word
    · rename_i items list
      exact ⟨items, list⟩
    · exact absurd accounted.1 some_word
  obtain ⟨items, list⟩ := listed
  rw [words_of_accounted accounted list] at stands
  obtain ⟨j, given, count⟩ := exists_of_getElem?_filterMap stands
  exact ⟨items, j, list, given, count⟩

end Manifest

namespace WordAt

variable {doc : Value} {field word : String} {items : List Value} {j k : Nat}

private theorem lt_length (stands : WordAt doc field items j k word) : j < items.length := by
  have given := stands.given
  by_contra beyond
  rw [List.getElem?_eq_none (by omega)] at given
  cases given

private theorem earlier_eq_iff (stands : WordAt doc field items j k word) :
    k = j ↔ ∀ item ∈ items.take j, item.scalarText?.isSome = true := by
  have length : (items.take j).length = j := List.length_take_of_le (Nat.le_of_lt stands.lt_length)
  rw [← List.countP_eq_length, length, stands.count]

end WordAt

/-- The field of a word names the element at the number of words before it in its list. That is the
word's own element exactly if all elements before it give words. -/
structure Container.NamesWord (c : Container) (doc : Value) (i : Nat) (word field : String)
    (items : List Value) (position earlier : Nat) : Prop where
  stands : WordAt doc field items position earlier word
  named : c.argvField i = s!"{field}[{earlier}]"
  found : doc.field? (c.argvField i) = items[earlier]?
  own : earlier = position ↔ ∀ item ∈ items.take position, item.scalarText?.isSome = true
  read : earlier = position → (doc.field? (c.argvField i)).bind (·.scalarText?) = some word

namespace Container

variable {c : Container} {doc : Value} {issues : List FieldIssue} {i : Nat} {word : String}

private theorem namesWord_of_wordAt {field : String} {items : List Value} {j k : Nat}
    (stands : WordAt doc field items j k word) (named : c.argvField i = s!"{field}[{k}]") :
    c.NamesWord doc i word field items j k := by
  have found : doc.field? (c.argvField i) = items[k]? := by
    rw [named, Value.field?_index, stands.list]
    rfl
  refine ⟨stands, named, found, stands.earlier_eq_iff, ?_⟩
  rintro rfl
  rw [found]
  exact stands.given

private theorem exists_namesWord (accounts : c.Accounts doc issues) (hw : c.argv[i]? = some word) :
    ∃ field ∈ [s!"{c.field}.command", s!"{c.field}.args"], ∃ items position earlier,
      c.NamesWord doc i word field items position earlier := by
  rw [argv, List.getElem?_append] at hw
  split at hw
  · rename_i inside
    obtain ⟨items, j, stands⟩ := Manifest.exists_wordAt accounts.command hw
    refine ⟨_, List.mem_cons_self .., items, j, i, namesWord_of_wordAt stands ?_⟩
    rw [argvField, if_pos inside]
    simp [toString, ← String.toList_inj]
  · rename_i outside
    obtain ⟨items, j, stands⟩ := Manifest.exists_wordAt accounts.args hw
    refine ⟨_, .tail _ (List.mem_cons_self ..), items, j, _, namesWord_of_wordAt stands ?_⟩
    rw [argvField, if_neg outside]
    simp [toString, ← String.toList_inj]

end Container

/-! ### Nodes for arguments -/

def NoArguments (steps : List GraphStep) : Prop :=
  ∀ n, .node n ∈ steps → n.kind ≠ .commandArg

namespace NoArguments

@[simp] theorem nil : NoArguments [] := by
  intro n hn
  cases hn

@[simp] theorem append_iff {steps more : List GraphStep} :
    NoArguments (steps ++ more) ↔ NoArguments steps ∧ NoArguments more := by
  simp only [NoArguments, List.mem_append, or_imp, forall_and]

@[simp] theorem node_iff {n : Node} {steps : List GraphStep} :
    NoArguments (.node n :: steps) ↔ n.kind ≠ .commandArg ∧ NoArguments steps := by
  simp [NoArguments, or_imp, forall_and]

@[simp] theorem note_iff {d : Diagnostic} {steps : List GraphStep} :
    NoArguments (.note d :: steps) ↔ NoArguments steps := by
  simp [NoArguments]

@[simp] theorem edgeBetween (source target : NodeId) (relation : Relation) :
    NoArguments (GraphStep.edgeBetween source target relation) := by
  intro n hn
  obtain ⟨-, same⟩ := GraphStep.mem_edgeBetween.mp hn
  cases same

@[simp] theorem flatMap_iff {α : Type} {items : List α} {f : α → List GraphStep} :
    NoArguments (items.flatMap f) ↔ ∀ a ∈ items, NoArguments (f a) := by
  simp only [NoArguments, List.mem_flatMap]
  grind

@[simp] theorem linkAll (bindings : List Binding) (target : NodeId) :
    NoArguments (linkAll bindings target) := by
  simp [SecretFlow.linkAll, Binding.link]

@[simp] theorem declaration (id : NodeId) (origin : Origin) (payload : Payload) :
    NoArguments (GraphStep.declaration id origin payload) := by
  simp [GraphStep.declaration]

private theorem foldl {α : Type} {f : Scope → α → Walked}
    (none : ∀ scope part, NoArguments (f scope part).steps)
    (parts : List α) {w : Walked} (start : NoArguments w.steps) :
    NoArguments (parts.foldl (Walked.andThen f) w).steps :=
  List.foldlRecOn (motive := fun w : Walked => NoArguments w.steps) _ _ start
    fun w here part _ => append_iff.mpr ⟨here, none w.scope part⟩

end NoArguments

namespace Place

variable (p : Place)

@[simp] theorem noArguments_lookupAll (scope : Scope) (names : List String) :
    NoArguments (p.lookupAll scope names).steps := by
  have one (scope : Scope) (name : String) : NoArguments (p.lookup scope name).steps := by
    unfold lookup
    split
    · exact .nil
    · split
      · exact .nil
      · dsimp only
        split <;> simp
  exact List.foldlRecOn (motive := fun found : Found => NoArguments found.steps) _ _ .nil
    fun found here name _ => NoArguments.append_iff.mpr ⟨here, one found.scope name⟩

@[simp] theorem noArguments_references (scope : Scope) (names : List String) (text : String) :
    NoArguments (p.references scope names text).steps :=
  p.noArguments_lookupAll scope names

@[simp] theorem noArguments_deadEnd (scope : Scope) (key : String) (cause : UnresolvedCause) :
    NoArguments (p.deadEnd scope key cause) := by
  simp [deadEnd]

@[simp] theorem noArguments_consumerSteps (rules : List SinkRule) (id : NodeId) (origin : Origin)
    (s : Shell.Statement) (mentioned : List Binding) :
    NoArguments (consumerSteps rules id origin s mentioned) := by
  unfold consumerSteps
  cases sinkOf? rules s <;> cases mentioned <;> simp

private theorem noArguments_statementAlone (rules : List SinkRule) (script : ScriptRef)
    (expanded : Bool) (scope : Scope) (s : Shell.Statement) :
    NoArguments (p.statementAlone rules script expanded scope s).steps := by
  simp [statementAlone, mentioned]

private theorem noArguments_script (options : FlowOptions) (resolve : Resolver) (depth : Nat)
    (around : List String) (expanded : Bool) (ref : ScriptRef) (scope : Scope) :
    NoArguments (p.script options resolve depth around expanded ref scope).steps := by
  induction depth generalizing around expanded ref scope with
  | zero => simp [script, note]
  | succ depth ih =>
    unfold script
    dsimp only
    split
    · simp [note]
    · split
      · simp [note]
      · refine .foldl (fun inner s => ?_) _ .nil
        have alone := p.noArguments_statementAlone options.sinks ref expanded inner s
        unfold statement
        dsimp only
        split
        · exact alone
        · split <;> simp [alone, ih]

private theorem noArguments_argumentSink (rules : List SinkRule) (line : String)
    (mentioning : List NodeId) : NoArguments (p.argumentSink rules line mentioning) := by
  unfold argumentSink
  split <;> simp

def argumentNode (c : Container) (word : String) (i : Nat) : Node :=
  ⟨p.id s!"arg:{i}", .commandArg, some (p.origin (c.argvField i)), .text word⟩

private theorem eq_argumentNode_of_mem (scope : Scope) (c : Container) :
    ∀ n, .node n ∈ (p.arguments scope c).1.steps → n.kind = .commandArg →
      ∃ i word, c.argv[i]? = some word ∧ n = p.argumentNode c word i := by
  refine List.foldlRecOn (motive := fun w : Walked × List NodeId => ∀ n, .node n ∈ w.1.steps →
    n.kind = .commandArg → ∃ i word, c.argv[i]? = some word ∧ n = p.argumentNode c word i)
    _ _ ?_ ?_
  · intro n none
    cases none
  rintro w here ⟨text, i⟩ plain n hn kind
  have stands : c.argv[i]? = some text :=
    List.mk_mem_zipIdx_iff_getElem?.mp (List.mem_filter.mp plain).1
  have looked := p.noArguments_references w.1.scope
    (addNames (Shell.argumentVariables text) (Shell.variableNames text true)) text
  unfold argument at hn
  dsimp only at hn
  split at hn
  · rcases List.mem_append.mp hn with old | new
    · exact here n old kind
    · exact absurd kind (looked n new)
  · rcases List.mem_append.mp hn with before | added
    · rcases List.mem_append.mp before with old | new
      · exact here n old kind
      · exact absurd kind (looked n new)
    · rcases List.mem_cons.mp added with same | linked
      · exact ⟨i, text, stands, GraphStep.node.inj same⟩
      · exact absurd kind (NoArguments.linkAll _ _ n linked)

private theorem mem_container {file : String} {options : FlowOptions} {cluster : Option Cluster}
    {resolve : Resolver} {volumes : List Volume} {c : Container} {n : Node}
    (kind : n.kind = .commandArg) (hn : .node n ∈ container file options cluster resolve volumes c) :
    ∃ i word, c.argv[i]? = some word ∧ n = (ofContainer file volumes c).argumentNode c word i := by
  have imported (scope : Scope) (e : EnvImport) :
      NoArguments ((ofContainer file volumes c).envImport cluster scope e).steps := by
    unfold envImport
    split
    · dsimp only
      split <;> simp
    · exact .nil
  have set (scope : Scope) (e : EnvVariable) :
      NoArguments ((ofContainer file volumes c).envVariable options scope e).steps := by
    have notes (value : String) :
        NoArguments ((ofContainer file volumes c).userNameNotes options.identifiers e value) := by
      unfold userNameNotes
      dsimp only
      split <;> simp
    unfold envVariable
    dsimp only
    split
    · simp
    · split <;> simp [notes]
    · exact .nil
  have mounted (scope : Scope) (m : VolumeMount) :
      NoArguments ((ofContainer file volumes c).volumeMount volumes scope m).steps := by
    unfold volumeMount
    split <;> simp
  rcases List.mem_append.mp hn with before | run
  · have none := NoArguments.foldl mounted c.mounts (.foldl set c.env
      (.foldl imported c.envFrom (w := { scope := {} }) .nil))
    exact absurd kind (none n before)
  · unfold argv at run
    split at run
    · cases run
    · dsimp only at run
      rcases List.mem_append.mp run with first | launched
      · rcases List.mem_append.mp first with argument | sink
        · exact eq_argumentNode_of_mem _ _ c n argument kind
        · split at sink
          · cases sink
          · exact absurd kind (noArguments_argumentSink _ _ _ _ n sink)
      · obtain ⟨l, -, taken⟩ := List.mem_flatMap.mp launched
        exact absurd kind (noArguments_script _ _ _ _ _ _ _ _ n taken)

end Place

namespace Manifest

private theorem exists_word_of_node {m : Manifest} {pod : PodSpec} (hpod : m.pod? = some pod)
    {options : FlowOptions} {cluster : Option Cluster} {resolve : Resolver} {n : Node}
    (hn : n ∈ (m.flowGraph options cluster resolve).nodes) (kind : n.kind = .commandArg) :
    ∃ c ∈ pod.containers, ∃ i word, c.argv[i]? = some word ∧
      n.origin = some (.manifest m.file (c.argvField i)) ∧ n.payload = .text word := by
  have step : .node n ∈ m.flowSteps options cluster resolve := node_step_of_mem hn
  unfold flowSteps at step
  rw [hpod] at step
  rcases List.mem_append.mp step with opening | inside
  · rcases List.mem_cons.mp opening with same | noted
    · rw [GraphStep.node.inj same] at kind
      cases kind
    · obtain ⟨issue, -, eq⟩ := List.mem_map.mp noted
      cases eq
  · obtain ⟨c, hc, taken⟩ := List.mem_flatMap.mp inside
    obtain ⟨i, word, stands, rfl⟩ := Place.mem_container kind taken
    exact ⟨c, hc, i, word, stands, rfl, rfl⟩

/-- In the pod of a workload, the field of a word counts the words before it in its list. So it
names the element of the document that the word stands in exactly if no element before that one was
left out, and the nodes for arguments come from these fields. -/
theorem argument_fields_count_words {doc : Value} {kind : String} {fields : List String}
    (kindOf : doc.textAt? "kind" = some kind) (workload : podFields? kind = some fields)
    (file : String) (docIndex : Nat) (contentHash : String) (options : FlowOptions)
    (cluster : Option Cluster) (resolve : Resolver) :
    let m := ofDocument doc file docIndex contentHash
    ∃ pod, m.pod? = some pod ∧
      (∀ c ∈ pod.containers, ∀ (i : Nat) (word : String), c.argv[i]? = some word →
        ∃ field ∈ [s!"{c.field}.command", s!"{c.field}.args"], ∃ items position earlier,
          c.NamesWord doc i word field items position earlier) ∧
      ∀ n ∈ (m.flowGraph options cluster resolve).nodes, n.kind = .commandArg →
        ∃ c ∈ pod.containers, ∃ i word, c.argv[i]? = some word ∧
          n.origin = some (.manifest file (c.argvField i)) ∧ n.payload = .text word := by
  intro m
  obtain ⟨body, -⟩ := ofDocument_of_workload kindOf workload file docIndex contentHash
  obtain ⟨pod, value, -, accounts⟩ := accounts_readPod (spells_podFields workload) doc
  have hpod : m.pod? = some pod := by rw [pod?, body, value]
  refine ⟨pod, hpod, ?_, ?_⟩
  · intro c hc i word hw
    exact Container.exists_namesWord (accounts.lists c hc) hw
  · intro n hn argument
    exact exists_word_of_node hpod hn argument

def nestedCommand : Value :=
  .mapping [(.text "apiVersion", .text "v1"), (.text "kind", .text "Pod"),
    (.text "metadata", .mapping [(.text "name", .text "job")]),
    (.text "spec", .mapping [(.text "containers", .sequence [.mapping [
      (.text "name", .text "app"),
      (.text "command", .sequence [.sequence [.text "nested"], .text "echo", .text "$(TOKEN)"]),
      (.text "env", .sequence [.mapping [(.text "name", .text "TOKEN"),
        (.text "valueFrom", .mapping [(.text "secretKeyRef",
          .mapping [(.text "name", .text "api"), (.text "key", .text "token")])])]])]])])]

/-- The pod as it is read: two words are left of the command. -/
def nestedCommandPod : PodSpec where
  field := "spec"
  containers := [
    { name := "app"
      field := "spec.containers[0]"
      command := ["echo", "$(TOKEN)"]
      args := []
      env := [⟨"TOKEN", .secretKey "api" "token", "spec.containers[0].env[0]"⟩]
      envFrom := []
      mounts := [] }]

/-- The fields of both words name the elements before theirs. -/
theorem argument_fields_count_words_nested :
    let m := ofDocument nestedCommand "pod.yaml" 0 ""
    ∃ pod, m.pod? = some pod ∧
      (∀ c ∈ pod.containers, ∀ (i : Nat) (word : String), c.argv[i]? = some word →
        ∃ field ∈ [s!"{c.field}.command", s!"{c.field}.args"], ∃ items position earlier,
          c.NamesWord nestedCommand i word field items position earlier) ∧
      ∀ n ∈ (m.flowGraph .echoing none (.ofTable [])).nodes, n.kind = .commandArg →
        ∃ c ∈ pod.containers, ∃ i word, c.argv[i]? = some word ∧
          n.origin = some (.manifest "pod.yaml" (c.argvField i)) ∧ n.payload = .text word :=
  argument_fields_count_words (show nestedCommand.textAt? "kind" = some "Pod" by decide +kernel)
    (show podFields? "Pod" = some ["spec"] by decide +kernel) "pod.yaml" 0 "" .echoing none (.ofTable [])

/-- After an element that was left out, the field of a word names another element than the word's
own, and so does the origin of its node. -/
theorem skipped_element_shifts_field :
    let m := ofDocument nestedCommand "pod.yaml" 0 ""
    shapeFault? nestedCommand = none ∧ m.pod? = some nestedCommandPod ∧
      ∃ c ∈ nestedCommandPod.containers, c.argv[1]? = some "$(TOKEN)" ∧
        (nestedCommand.field? s!"{c.field}.command[2]").bind (·.scalarText?) = some "$(TOKEN)" ∧
        (nestedCommand.field? (c.argvField 1)).bind (·.scalarText?) = some "echo" ∧
        (nestedCommand.field? (c.argvField 0)).bind (·.scalarText?) = none ∧
        ∃ n ∈ (m.flowGraph .echoing none (.ofTable [])).nodes, n.kind = .commandArg ∧
          n.origin = some (.manifest "pod.yaml" (c.argvField 1)) ∧ n.payload = .text "$(TOKEN)" := by
  decide +kernel

end Manifest

end SecretFlow

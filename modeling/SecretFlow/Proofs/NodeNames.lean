import SecretFlow.Flow.Build

set_option autoImplicit false
set_option relaxedAutoImplicit false

/-!
The ids of nodes. A container names its nodes by labels, and the label of a node tells its kind;
so nodes of different kinds never share an id, as long as no container has a colon in its name.
-/

namespace SecretFlow

/-- The labels under which a container names nodes, with the kinds of the nodes. Declarations are
named after the entries of the container that bring in a secret. -/
inductive Container.Labels (c : Container) (volumes : List Volume) : NodeKind → String → Prop
  | imported {e : EnvImport} {secret : String} : e ∈ c.envFrom → e.source = .secret secret →
      Labels c volumes .secretDeclaration s!"envFrom:{secret}"
  | secretVariable {e : EnvVariable} {secret key : String} : e ∈ c.env →
      e.source = .secretKey secret key → Labels c volumes .secretDeclaration s!"env:{e.name}"
  | secretVolume {m : VolumeMount} {secret : String} {items : List KeyPath} : m ∈ c.mounts →
      (volume? volumes m.name).map Volume.source = some (.secret secret items) →
      Labels c volumes .secretDeclaration s!"secret-volume:{m.name}"
  | mounted (name : String) : Labels c volumes .volumeMountRef s!"mount:{name}"
  | reference (name : String) : Labels c volumes .envVarRef s!"envref:{name}"
  | argument (index : Nat) : Labels c volumes .commandArg s!"arg:{index}"
  | commandSink (sink : SinkKind) (pattern : String) :
      Labels c volumes (.externalSink sink pattern) "argv:sink"
  | statement (script : ScriptRef) (line index : Nat) :
      Labels c volumes .scriptStatement s!"{script.key}:{line}.{index}"
  | statementSink (script : ScriptRef) (line index : Nat) (sink : SinkKind) (pattern : String) :
      Labels c volumes (.externalSink sink pattern) s!"{script.key}:{line}.{index}:sink"
  | unresolved (key : String) (cause : UnresolvedCause) :
      Labels c volumes (.unresolved cause) s!"unresolved:{key}"

/-- The name of the kind that a label stands for: its text up to the first colon tells all kinds
apart but statements and their sinks. -/
def kindTagged (tag : String) (sink : Bool) : String :=
  if tag = "" then NodeKind.label .manifestRoot
  else if tag = "env" ∨ tag = "envFrom" ∨ tag = "secret-volume" then
    NodeKind.label .secretDeclaration
  else if tag = "envref" then NodeKind.label .envVarRef
  else if tag = "mount" then NodeKind.label .volumeMountRef
  else if tag = "arg" then NodeKind.label .commandArg
  else if tag = "unresolved" then NodeKind.label (.unresolved .notFound)
  else if sink then NodeKind.label (.externalSink .stdout "")
  else NodeKind.label .scriptStatement

def kindNamed (id : NodeId) : String :=
  kindTagged
    (String.ofList ((((id.toList.drop 2).dropWhile (· ≠ ':')).drop 1).takeWhile (· ≠ ':')))
    (id.toList.getLast? = some 'k')

namespace Place

variable (p : Place)

@[simp] theorem toList_id (label : String) :
    (p.id label).toList = 'c' :: ':' :: (p.name.toList ++ ':' :: label.toList) := by
  simp [Place.id, toString]

private theorem dropWhile_colon {before after : List Char} (plain : ':' ∉ before) :
    (before ++ ':' :: after).dropWhile (· ≠ ':') = ':' :: after := by
  rw [List.dropWhile_append_of_pos]
  · simp
  · intro c hc
    have other : c ≠ ':' := fun same => plain (same ▸ hc)
    simpa using other

theorem takeWhile_colon {before after : List Char} (plain : ':' ∉ before) :
    (before ++ ':' :: after).takeWhile (· ≠ ':') = before := by
  rw [List.takeWhile_append_of_pos]
  · simp
  · intro c hc
    have other : c ≠ ':' := fun same => plain (same ▸ hc)
    simpa using other

private theorem kindNamed_id (plain : ':' ∉ p.name.toList) {label : String} (tag : String)
    (rest : List Char) (parts : label.toList = tag.toList ++ ':' :: rest)
    (simple : ':' ∉ tag.toList) :
    kindNamed (p.id label) = kindTagged tag ((p.id label).toList.getLast? = some 'k') := by
  unfold kindNamed
  have inside : ((p.id label).toList.drop 2).dropWhile (· ≠ ':') = ':' :: label.toList := by
    rw [toList_id, List.drop_succ_cons, List.drop_succ_cons, List.drop_zero,
      dropWhile_colon plain]
  rw [inside, List.drop_succ_cons, List.drop_zero, parts, takeWhile_colon simple,
    String.ofList_toList]

private theorem getLast?_id {label : String} {c : Char} (last : label.toList.getLast? = some c) :
    (p.id label).toList.getLast? = some c := by
  have parts : (p.id label).toList = ('c' :: ':' :: p.name.toList ++ [':']) ++ label.toList := by
    simp
  rw [parts, List.getLast?_append, last, Option.some_or]

end Place

private theorem exists_getLast?_toDigits (n : Nat) :
    ∃ c, (Nat.toDigits 10 n).getLast? = some c ∧ c ≠ 'k' := by
  have last := List.getLast?_eq_some_getLast (Nat.toDigits_ne_nil (n := n) (b := 10))
  refine ⟨_, last, ?_⟩
  intro same
  have digit := Nat.isDigit_of_mem_toDigits (by decide) (by decide) (List.mem_of_getLast? last)
  rw [same] at digit
  revert digit
  decide

private theorem key_parts (script : ScriptRef) : ∃ tag rest,
    script.key.toList = tag.toList ++ ':' :: rest ∧ ':' ∉ tag.toList ∧
      ∀ sink, kindTagged tag sink = if sink then NodeKind.label (.externalSink .stdout "")
        else NodeKind.label .scriptStatement := by
  cases script with
  | path p => exact ⟨"file", p.toList, by simp [ScriptRef.key, toString], by decide, fun _ => rfl⟩
  | configMap name key =>
    exact ⟨"configmap", name.toList ++ '/' :: key.toList, by simp [ScriptRef.key, toString],
      by decide, fun _ => rfl⟩
  | inline label _ =>
    exact ⟨"inline", label.toList, by simp [ScriptRef.key, toString], by decide, fun _ => rfl⟩

private theorem colon_not_mem_toDigits (n : Nat) : ':' ∉ Nat.toDigits 10 n := by
  intro colon
  have digit := Nat.isDigit_of_mem_toDigits (by decide) (by decide) colon
  revert digit
  decide

private theorem dropWhile_reverse_colon {before after : List Char} (plain : ':' ∉ after) :
    (before ++ ':' :: after).reverse.dropWhile (· ≠ ':') = ':' :: before.reverse := by
  rw [List.reverse_append, List.reverse_cons, List.append_assoc]
  exact Place.dropWhile_colon (by simpa using plain)

theorem Place.key_eq_of_statementId_eq {p : Place} {script other : ScriptRef}
    {s t : Shell.Statement}
    (same : p.statementId script s = p.statementId other t) : script.key = other.key := by
  have label (ref : ScriptRef) (u : Shell.Statement) :
      (p.statementId ref u).toList = ('c' :: ':' :: p.name.toList ++ ':' :: ref.key.toList) ++
        ':' :: (Nat.toDigits 10 u.line ++ '.' :: Nat.toDigits 10 u.index) := by
    simp [statementId, toString, Nat.repr]
  have place (u : Shell.Statement) :
      ':' ∉ Nat.toDigits 10 u.line ++ '.' :: Nat.toDigits 10 u.index := by
    simp [colon_not_mem_toDigits]
  have read := congrArg (fun id : NodeId => id.toList.reverse.dropWhile (· ≠ ':')) same
  simp only [label, dropWhile_reverse_colon (place _)] at read
  have front := List.reverse_inj.mp (List.cons.inj read).2
  have keys := (List.cons.inj (List.append_cancel_left front)).2
  exact String.toList_injective keys

/-- The id of a statement ends in a digit, so it is not that of a sink. -/
theorem Place.statementId_ne_sink (p : Place) (script other : ScriptRef) (s t : Shell.Statement) :
    p.statementId script s ≠ s!"{p.statementId other t}:sink" := by
  intro same
  obtain ⟨d, digit, differs⟩ := exists_getLast?_toDigits s.index
  have last := congrArg (fun id : NodeId => id.toList.getLast?) same
  simp [statementId, toString, Nat.repr, List.getLast?_append, List.getLast?_cons, digit] at last
  exact differs last

private theorem kindNamed_script {p : Place} (plain : ':' ∉ p.name.toList) {label : String}
    (script : ScriptRef) (rest : List Char) (below : label.toList = script.key.toList ++ rest)
    (last : Char) (ends : label.toList.getLast? = some last) :
    kindNamed (p.id label) = if last = 'k' then NodeKind.label (.externalSink .stdout "")
      else NodeKind.label .scriptStatement := by
  obtain ⟨tag, more, parts, simple, kinds⟩ := key_parts script
  rw [p.kindNamed_id plain tag (more ++ rest) (by rw [below, parts]; simp) simple, kinds,
    p.getLast?_id ends]
  simp

theorem Container.Labels.kindNamed_id {c : Container} {volumes : List Volume} {kind : NodeKind}
    {label : String} (named : c.Labels volumes kind label) {p : Place}
    (plain : ':' ∉ p.name.toList) : kindNamed (p.id label) = kind.label := by
  -- the kinds with a tag of their own need only the tag; the last letter decides the others
  have tagged (tag : String) (rest : List Char)
      (parts : label.toList = tag.toList ++ ':' :: rest) (simple : ':' ∉ tag.toList)
      (kinds : ∀ sink, kindTagged tag sink = kind.label) : kindNamed (p.id label) = kind.label := by
    rw [p.kindNamed_id plain tag rest parts simple, kinds]
  cases named with
  | imported => exact tagged "envFrom" _ (by simp [toString]; rfl) (by decide) fun _ => rfl
  | secretVariable => exact tagged "env" _ (by simp [toString]; rfl) (by decide) fun _ => rfl
  | secretVolume =>
    exact tagged "secret-volume" _ (by simp [toString]; rfl) (by decide) fun _ => rfl
  | mounted => exact tagged "mount" _ (by simp [toString]; rfl) (by decide) fun _ => rfl
  | reference => exact tagged "envref" _ (by simp [toString]; rfl) (by decide) fun _ => rfl
  | argument => exact tagged "arg" _ (by simp [toString]; rfl) (by decide) fun _ => rfl
  | unresolved => exact tagged "unresolved" _ (by simp [toString]; rfl) (by decide) fun _ => rfl
  | commandSink =>
    rw [p.kindNamed_id plain "argv" "sink".toList (by decide) (by decide),
      p.getLast?_id (c := 'k') (by decide)]
    rfl
  | statement script line index =>
    obtain ⟨d, digit, other⟩ := exists_getLast?_toDigits index
    rw [kindNamed_script plain script _ (by simp [toString]; rfl) d
      (by simp [toString, List.getLast?_append, List.getLast?_cons, digit]), if_neg other]
  | statementSink script line index =>
    rw [kindNamed_script plain script _ (by simp [toString]; rfl) 'k'
      (by simp [toString, List.getLast?_append, List.getLast?_cons]), if_pos rfl]
    rfl

theorem Container.Labels.id_ne {c : Container} {volumes : List Volume} {kind other : NodeKind}
    {label more : String} (named : c.Labels volumes kind label)
    (differs : c.Labels volumes other more) (kinds : kind.label ≠ other.label) {p : Place}
    (plain : ':' ∉ p.name.toList) : p.id label ≠ p.id more := by
  intro same
  apply kinds
  rw [← named.kindNamed_id plain, ← differs.kindNamed_id plain, same]

end SecretFlow

import SecretFlow.Flow.Lookup
import SecretFlow.Identifier
import SecretFlow.Shell.Statement
import SecretFlow.Sink.Rule

set_option autoImplicit false
set_option relaxedAutoImplicit false

/-!
The flow of secrets through scripts. A script is walked statement by statement; a script that it
runs is walked in turn, down to a given depth. What cannot be walked gets a node that everything
in scope flows into.
-/

namespace SecretFlow

structure FlowOptions where
  maxReferenceDepth : Nat := 10
  sinks : List SinkRule
  identifiers : IdentifierPolicy := {}

structure Walked where
  scope : Scope
  steps : List GraphStep := []

def Walked.andThen {α : Type} (f : Scope → α → Walked) (w : Walked) (part : α) : Walked :=
  let next := f w.scope part
  ⟨next.scope, w.steps ++ next.steps⟩

abbrev ScriptWalk := ScriptRef → Scope → Walked

namespace Place

/-- A script that is not walked; whatever is in scope may flow into it. -/
def deadEnd (p : Place) (scope : Scope) (key : String) (cause : UnresolvedCause) :
    List GraphStep :=
  let id := p.id s!"unresolved:{key}"
  .node ⟨id, .unresolved cause, some (p.origin p.field), .text key⟩ :: linkAll scope.tainted id

def sinkOf? (rules : List SinkRule) (s : Shell.Statement) : Option SinkPattern :=
  if s.assignment.isSome then findAssignmentSink rules s.text else findSink rules s.text

/-- What follows from what a statement mentions: its own node if it mentions anything, and the
sink that it is. -/
def consumerSteps (rules : List SinkRule) (id : NodeId) (origin : Origin)
    (s : Shell.Statement) (mentioned : List Binding) : List GraphStep :=
  let own := if mentioned.isEmpty then []
    else .node ⟨id, .scriptStatement, some origin, .text s.text⟩ :: linkAll mentioned id
  let sink := match sinkOf? rules s with
    | none => []
    | some pattern =>
        let sinkId := s!"{id}:sink"
        .node ⟨sinkId, .externalSink pattern.kind pattern.name, some origin, .text s.text⟩ ::
          (if mentioned.isEmpty then [] else GraphStep.edgeBetween id sinkId .flowsTo)
  own ++ sink

/-- The scope after an assignment: the name holds the statement's node, or nothing secret. -/
def assign (scope : Scope) (id : NodeId) (tainted : Bool) (a : Shell.Assignment) : Scope :=
  if tainted then
    let exported := a.exported || ((scope.get? a.name).map (·.exported)).getD false
    scope.bind a.name ⟨id, false, exported⟩
  else scope.clear a.name

/-- What a statement mentions. In text that the cluster expands first, its own form of reference
counts too. -/
def mentioned (p : Place) (expanded : Bool) (scope : Scope) (s : Shell.Statement) : Found :=
  let names := if expanded then addNames s.variableNames (Shell.argumentVariables s.text)
    else s.variableNames
  let text := match s.body with
    | some body => s.text ++ "\n" ++ body
    | none => s.text
  p.references scope names text

def statementId (p : Place) (script : ScriptRef) (s : Shell.Statement) : NodeId :=
  p.id s!"{script.key}:{s.line}.{s.index}"

/-- Walk a statement, but for the script that it runs. -/
def statementAlone (p : Place) (rules : List SinkRule) (script : ScriptRef) (expanded : Bool)
    (scope : Scope) (s : Shell.Statement) : Walked :=
  let found := p.mentioned expanded scope s
  let id := p.statementId script s
  { scope := match s.assignment with
      | some a => assign found.scope id (!found.bindings.isEmpty) a
      | none => found.scope
    steps := found.steps ++
      consumerSteps rules id (.script script.key s.line) s found.bindings }

/-- Walk a statement of a script. A script that it runs sees the scope after it: all of the scope
if it is read into the shell, else what is exported. -/
def statement (p : Place) (rules : List SinkRule) (walk : ScriptWalk) (script : ScriptRef)
    (expanded : Bool) (scope : Scope) (s : Shell.Statement) : Walked :=
  let alone := p.statementAlone rules script expanded scope s
  match s.invocation with
  | none => alone
  | some invocation =>
      let child := p.scriptRef invocation.target (some script)
      match invocation.mode with
      | .source =>
          let walked := walk child alone.scope
          ⟨walked.scope, alone.steps ++ walked.steps⟩
      | .execute => ⟨alone.scope, alone.steps ++ (walk child alone.scope.exported).steps⟩

def statements (p : Place) (rules : List SinkRule) (walk : ScriptWalk) (script : ScriptRef)
    (expanded : Bool) (scope : Scope) (ss : List Shell.Statement) : Walked :=
  ss.foldl (Walked.andThen (p.statement rules walk script expanded)) { scope }

def causeOf : ResolveError → UnresolvedCause
  | .notFound _ => .notFound
  | .unreadable _ => .unreadable

/-- Walk a script to a depth; the labels of the scripts around it are given. -/
def script (p : Place) (options : FlowOptions) (resolve : Resolver) :
    Nat → List String → Bool → ScriptWalk
  | 0, _, _, ref, scope =>
      let key := ref.key
      ⟨scope, p.note .depthExceeded
        s!"stopped expanding '{key}' at reference depth {options.maxReferenceDepth}" ::
        p.deadEnd scope key .depthExceeded⟩
  | depth + 1, around, expanded, ref, scope =>
      let key := ref.key
      if around.contains key then
        ⟨scope, [p.note .cyclicReference
          s!"'{key}' is already being expanded; not following it again"]⟩
      else
        match resolve ref with
        | .error e =>
            ⟨scope, p.note .unresolvedScript e.message :: p.deadEnd scope key (causeOf e)⟩
        | .ok text =>
            p.statements options.sinks (script p options resolve depth (key :: around) false)
              ref expanded scope (Shell.statements text)

end Place

end SecretFlow

import SecretFlow.Cluster
import SecretFlow.Flow.Script

set_option autoImplicit false
set_option relaxedAutoImplicit false

/-!
The flow of secrets into a container: through its environment and its volumes, to its arguments
and to the scripts that it runs.
-/

namespace SecretFlow.Place

def envImport (p : Place) (cluster : Option Cluster) (scope : Scope) (e : EnvImport) : Walked :=
  match e.source with
  | .secret secret =>
      let id := p.id s!"envFrom:{secret}"
      let origin := p.origin e.field
      let declared := GraphStep.declaration id origin (.secret secret none (e.start ++ "*"))
      match cluster.bind (·.secretKeys? secret) with
      | some keys =>
          let names := (keys.map (e.start ++ ·)).filter fun n => Shell.isName n.toList
          ⟨names.foldl (fun s n => s.bind n (.toDeclaration id)) scope, declared⟩
      | none =>
          let message := s!"envFrom secret '{secret}' is not part of the scan; " ++
            s!"unattributed variables with prefix '{e.start}' are assumed to come from it"
          ⟨{ scope with unknown := scope.unknown ++ [(e.start, id)] },
            declared ++ [.note ⟨.unknownSecretKeys, message, some origin⟩]⟩
  | .configMap name =>
      let keys := (cluster.bind (·.configMapKeys? name)).getD []
      ⟨keys.foldl (fun s k => s.clear (e.start ++ k)) scope, []⟩

def userNameNotes (p : Place) (policy : IdentifierPolicy) (e : EnvVariable)
    (value : String) : List GraphStep :=
  let verdict := policy.check value
  if isUserNameField e.name && verdict ≠ .ok then
    [.note ⟨.insecureIdentifier, s!"env var '{e.name}' holds a user name that is {verdict.text}",
      some (p.origin e.field)⟩]
  else []

def envVariable (p : Place) (options : FlowOptions) (scope : Scope) (e : EnvVariable) : Walked :=
  let origin := p.origin e.field
  match e.source with
  | .secretKey secret key =>
      let id := p.id s!"env:{e.name}"
      ⟨scope.bind e.name (.toDeclaration id),
        GraphStep.declaration id origin (.secret secret (some key) e.name)⟩
  | .literal value =>
      let notes := p.userNameNotes options.identifiers e value
      let found := p.lookupAll scope (Shell.argumentVariables value)
      if found.bindings.isEmpty then ⟨found.scope.clear e.name, notes ++ found.steps⟩
      else
        let id := p.id s!"envref:{e.name}"
        ⟨found.scope.bind e.name (.toReference id),
          notes ++ found.steps ++ (.node ⟨id, .envVarRef, some origin, .name e.name⟩ ::
            linkAll found.bindings id)⟩
  | _ => ⟨scope.clear e.name, []⟩

def volumeMount (p : Place) (volumes : List Volume) (scope : Scope) (m : VolumeMount) : Walked :=
  match (volume? volumes m.name).map Volume.source with
  | some (.secret secret _) =>
      let declaration := p.id s!"secret-volume:{m.name}"
      let mounted := p.id s!"mount:{m.name}"
      let origin := p.origin m.field
      let path := Text.dropRepeatedEnd '/' m.mountPath.toList
      let scope := if path.isEmpty then scope
        else { scope with mounts := scope.mounts ++ [(String.ofList path, mounted)] }
      ⟨scope, GraphStep.declaration declaration origin (.secret secret m.subPath m.mountPath) ++
        (.node ⟨mounted, .volumeMountRef, some origin, .path m.mountPath⟩ ::
          GraphStep.edgeBetween declaration mounted .injectsInto)⟩
  | _ => ⟨scope, []⟩

/-- The position of the script in arguments such as a shell, an option with a c, and a text. -/
def inlineIndex? : List String → Option Nat
  | [] => none
  | first :: rest =>
      if !Shell.namesShell first then none
      else
        let options := rest.takeWhile fun a =>
          "-".toList.isPrefixOf a.toList && !"--".toList.isPrefixOf a.toList
        match options.findIdx? (fun a => (a.toList.drop 1).contains 'c') with
        | none => none
        | some i => if i + 2 < rest.length + 1 then some (i + 2) else none

/-- An argument that is not a script: its node if it mentions anything. -/
def argument (p : Place) (c : Container) (w : Walked × List NodeId) (arg : String × Nat) :
    Walked × List NodeId :=
  let (text, i) := arg
  let names := addNames (Shell.argumentVariables text) (Shell.variableNames text true)
  let found := p.references w.1.scope names text
  let steps := w.1.steps ++ found.steps
  if found.bindings.isEmpty then (⟨found.scope, steps⟩, w.2)
  else
    let id := p.id s!"arg:{i}"
    (⟨found.scope, steps ++
      (.node ⟨id, .commandArg, some (p.origin (c.argvField i)), .text text⟩ ::
        linkAll found.bindings id)⟩, w.2 ++ [id])

/-- The sink that the arguments are, unless they run a shell. -/
def argumentSink (p : Place) (rules : List SinkRule) (line : String)
    (mentioning : List NodeId) : List GraphStep :=
  match findSink rules line with
  | none => []
  | some pattern =>
      let id := p.id "argv:sink"
      .node ⟨id, .externalSink pattern.kind pattern.name, some (p.origin s!"{p.field}.command"),
        .text line⟩ :: mentioning.flatMap fun arg => GraphStep.edgeBetween arg id .flowsTo

def launched (argv : List String) : List String :=
  match argv with
  | [] => []
  | first :: rest =>
      if Shell.namesShell first then
        (rest.find? fun a => !"-".toList.isPrefixOf a.toList).toList
      else argv.filter Shell.namesScript

/-- A script that a container runs, and whether its text stands among the arguments. -/
structure Launch where
  ref : ScriptRef
  inline : Bool
  deriving DecidableEq, Repr

/-- The scripts that a container runs: the text among its arguments, or else files. -/
def launches (p : Place) (c : Container) : List Launch :=
  match (inlineIndex? c.argv).bind (c.argv[·]?) with
  | some text => [⟨.inline p.name text, true⟩]
  | none => (launched c.argv).map fun target => ⟨p.scriptRef target none, false⟩

def plainArguments (c : Container) : List (String × Nat) :=
  c.argv.zipIdx.filter fun w => some w.2 ≠ inlineIndex? c.argv

/-- Walk the arguments that are not a script, and collect the ids of those that mention anything. -/
def arguments (p : Place) (scope : Scope) (c : Container) : Walked × List NodeId :=
  (plainArguments c).foldl (p.argument c) ({ scope }, [])

/-- Walk a script that a container runs. A text among the arguments is run by the container's own
shell, which sees all of the scope; the cluster expands it first. -/
def launch (p : Place) (options : FlowOptions) (resolve : Resolver) (scope : Scope) (l : Launch) :
    List GraphStep :=
  (p.script options resolve options.maxReferenceDepth [] l.inline l.ref
    (if l.inline then scope else scope.exported)).steps

def argv (p : Place) (options : FlowOptions) (resolve : Resolver) (scope : Scope) (c : Container) :
    List GraphStep :=
  match c.argv with
  | [] => []
  | first :: _ =>
      let w := p.arguments scope c
      let sink := if Shell.namesShell first then []
        else p.argumentSink options.sinks (" ".intercalate ((plainArguments c).map (·.1))) w.2
      w.1.steps ++ sink ++ (p.launches c).flatMap (p.launch options resolve w.1.scope)

/-- All of a container. Variables of its own take the place of imported ones. -/
def container (file : String) (options : FlowOptions) (cluster : Option Cluster)
    (resolve : Resolver) (volumes : List Volume) (c : Container) : List GraphStep :=
  let p := Place.ofContainer file volumes c
  let imported := c.envFrom.foldl (Walked.andThen (p.envImport cluster)) { scope := {} }
  let set := c.env.foldl (Walked.andThen (p.envVariable options)) imported
  let mounted := c.mounts.foldl (Walked.andThen (p.volumeMount volumes)) set
  mounted.steps ++ p.argv options resolve mounted.scope c

end SecretFlow.Place

import SecretFlow.Command.Arguments
import SecretFlow.Config.Reading

set_option autoImplicit false
set_option relaxedAutoImplicit false

/-!
What a user asks for on the command line, and the paths at which a command may look.
-/

namespace SecretFlow.Command

inductive Topic where
  | scan
  | graph
  | checkIdentifier
  | listSinks
  | init
  deriving DecidableEq, Repr

namespace Topic

def all : List Topic :=
  [scan, graph, checkIdentifier, listSinks, init]

def word : Topic → String
  | scan => "scan"
  | graph => "graph"
  | checkIdentifier => "check-identifier"
  | listSinks => "list-sinks"
  | init => "init"

def ofWord? (w : String) : Option Topic :=
  all.find? (·.word = w)

private def verbose : OptionName := ⟨"verbose", some 'v'⟩

private def config : ValueOption := { long := "config", short := some 'c', isPath := true }

private def format : ValueOption := { long := "format", short := some 'f' }

def usage : Topic → Usage
  | scan => {
      flags := [verbose]
      values := [config, format, { long := "fail-on" },
        { long := "output", short := some 'o', isPath := true }]
      maxWords := some 1
      wordsArePaths := true }
  | graph => {
      flags := [verbose]
      values := [config, format]
      maxWords := some 1
      wordsArePaths := true }
  | checkIdentifier => {
      flags := [verbose]
      values := [config]
      maxWords := none }
  | listSinks => { flags := [verbose], values := [config, format] }
  | init => { flags := [verbose, ⟨"force", none⟩] }

end Topic

inductive Job where
  | scan (path : String) (config : Option String) (format : String) (failOn : Option String)
      (output : Option String)
  | graph (path : String) (config : Option String) (format : String)
  | checkIdentifier (values : List String) (config : Option String)
  | listSinks (config : Option String) (format : String)
  | init (force : Bool)
  deriving DecidableEq, Repr

inductive Request where
  | run (job : Job)
  | help (topic : Option Topic)
  | version
  | rejected (fault : UsageFault)
  deriving DecidableEq, Repr

def Topic.job (topic : Topic) (g : Given) : Except UsageFault Job :=
  let config := g.value? "config"
  match topic with
  | .scan =>
      .ok (.scan (g.words.head?.getD ".") config ((g.value? "format").getD "console")
        (g.value? "fail-on") (g.value? "output"))
  | .graph =>
      match g.words with
      | path :: _ => .ok (.graph path config ((g.value? "format").getD "dot"))
      | [] => .error (.missing "<PATH>")
  | .checkIdentifier =>
      if g.words.isEmpty then .error (.missing "<VALUES>...")
      else .ok (.checkIdentifier g.words config)
  | .listSinks => .ok (.listSinks config ((g.value? "format").getD "table"))
  | .init => .ok (.init (g.flags.contains "force"))

namespace Request

private def ofTopic (topic : Topic) (args : List String) : Request :=
  match readArguments topic.usage {} args with
  | .error .help => help (some topic)
  | .error (.fault f) => rejected f
  | .ok given =>
      match topic.job given with
      | .ok job => run job
      | .error f => rejected f

private def ofHelp : List String → Request
  | [] => help none
  | [w] =>
      match Topic.ofWord? w with
      | some topic => help (some topic)
      | none => rejected (.unexpected w)
  | _ :: w :: _ => rejected (.unexpected w)

/-- What flags before the command ask for: nothing, help, the version, or what is wrong. -/
private def readFlags (seen : Bool) : List Char → Except Request Bool
  | [] => .ok seen
  | 'h' :: _ => .error (help none)
  | 'V' :: _ => .error version
  | 'v' :: rest =>
      if seen then .error (rejected (.repeated "verbose")) else readFlags true rest
  | c :: _ => .error (rejected (.unexpected (String.ofList ['-', c])))

private def flagLetters? (arg : String) : Option (List Char) :=
  match formOf arg with
  | .cluster letters => some letters
  | .long "help" none => some ['h']
  | .long "version" none => some ['V']
  | .long "verbose" none => some ['v']
  | _ => none

/-- The request of arguments, after a flag has been seen or not. -/
private def ofArgumentsFrom (seen : Bool) : List String → Request
  | [] => rejected (.missing "<COMMAND>")
  | arg :: rest =>
      match flagLetters? arg with
      | some letters =>
          match readFlags seen letters with
          | .ok next => ofArgumentsFrom next rest
          | .error request => request
      | none =>
          if arg = "help" then ofHelp rest
          else
            match Topic.ofWord? arg with
            | some topic => ofTopic topic rest
            | none => rejected (.unexpected arg)

def ofArguments (args : List String) : Request :=
  ofArgumentsFrom false args

end Request

/-- The paths at which a command may look: one with all that is below it and beside it, and single
ones. -/
structure Reads where
  root : Option String := none
  single : List String := []
  deriving DecidableEq, Repr

def Job.reads : Job → Reads
  | scan path config _ _ output => ⟨some path, config.toList ++ output.toList⟩
  | graph path config _ => ⟨some path, config.toList⟩
  | checkIdentifier _ config => ⟨none, Config.fileName :: config.toList⟩
  | listSinks config _ => ⟨none, Config.fileName :: config.toList⟩
  | init _ => ⟨none, [Config.fileName]⟩

end SecretFlow.Command

import SecretFlow.Text.Search

set_option autoImplicit false
set_option relaxedAutoImplicit false

/-!
Kinds of sinks: the ways in which data leaves a pod, from the weakest to the strongest.
-/

namespace SecretFlow

inductive SinkKind where
  | stdout
  | file
  | log
  | network
  deriving DecidableEq, Repr

namespace SinkKind

/-- Strength of a sink: the network is the strongest, standard output the weakest. -/
def rank : SinkKind → Nat
  | stdout => 0
  | file => 1
  | log => 2
  | network => 3

def word : SinkKind → String
  | stdout => "stdout"
  | file => "file"
  | log => "log"
  | network => "network"

def all : List SinkKind :=
  [stdout, file, log, network]

def ofWord? (w : String) : Option SinkKind :=
  all.find? (·.word = w)

/-- The kind meant by a word in any letter case, short forms included. -/
def ofInformal? (w : String) : Option SinkKind :=
  match Text.lowerWord w with
  | "stdout" | "echo" => some stdout
  | "file" => some file
  | "log" | "logging" => some log
  | "network" | "net" => some network
  | _ => none

end SinkKind

end SecretFlow

import SecretFlow.Automaton.Compile
import SecretFlow.Automaton.Search
import SecretFlow.Pattern.Meaning
import SecretFlow.Shell.Substitution
import SecretFlow.Sink.Kind

set_option autoImplicit false
set_option relaxedAutoImplicit false

/-!
Sink patterns: which statements move data out of a pod. A rule pairs a pattern with the test it
makes on a text, so that the choice among rules does not depend on how the test is made.
-/

namespace SecretFlow

/-- A named pattern for statements that send data to a kind of sink. -/
structure SinkPattern where
  name : String
  kind : SinkKind
  regex : String
  deriving DecidableEq, Repr

namespace SinkPattern

/-- The patterns that are always known, the earlier ones of a kind first. -/
def builtin : List SinkPattern := [
  ⟨"echo", .stdout, "\\becho\\b"⟩,
  ⟨"printf", .stdout, "\\bprintf\\b"⟩,
  ⟨"print", .stdout, "\\bprint\\b"⟩,
  ⟨"cat", .stdout, "\\bcat\\b"⟩,
  ⟨"env-dump", .stdout, "^\\s*(env|printenv|export\\s+-p|set)\\s*$"⟩,
  ⟨"tee", .file, "\\btee\\b"⟩,
  ⟨"log-file-redirect", .file, ">>?\\s*/(var/log|tmp)/"⟩,
  ⟨"logger", .log, "\\blogger\\b"⟩,
  ⟨"systemd-cat", .log, "\\bsystemd-cat\\b"⟩,
  ⟨"curl", .network, "\\bcurl\\b"⟩,
  ⟨"wget", .network, "\\bwget\\b"⟩,
  ⟨"netcat", .network, "\\b(nc|ncat|netcat|socat)\\b"⟩,
  ⟨"remote-copy", .network, "\\b(scp|sftp|rsync)\\b"⟩,
  ⟨"dev-tcp", .network, "/dev/(tcp|udp)/"⟩,
  ⟨"mail", .network, "\\b(sendmail|mailx?)\\b"⟩]

end SinkPattern

/-- A sink pattern whose regular pattern cannot be read. -/
structure SinkPatternError where
  name : String
  cause : PatternError
  deriving DecidableEq, Repr

structure SinkRule where
  pattern : SinkPattern
  hits : String → Bool

def SinkRule.ofPattern (p : SinkPattern) : Except SinkPatternError SinkRule :=
  match Pattern.ofText p.regex >>= Automaton.ofPattern with
  | .ok automaton => .ok ⟨p, automaton.finds⟩
  | .error cause => .error ⟨p.name, cause⟩

/-- Rules in the order of their patterns; the first pattern that cannot be read is reported. -/
def SinkRule.ofPatterns (ps : List SinkPattern) : Except SinkPatternError (List SinkRule) :=
  ps.mapM SinkRule.ofPattern

/-- The stronger of a pattern found before, if any, and a new one; the former wins a tie. -/
def stronger (best : Option SinkPattern) (p : SinkPattern) : Option SinkPattern :=
  match best with
  | none => some p
  | some b => if b.kind.rank < p.kind.rank then some p else some b

def strongest (ps : List SinkPattern) : Option SinkPattern :=
  ps.foldl stronger none

/-- The sink of a statement: the strongest pattern that hits it. -/
def findSink (rules : List SinkRule) (statement : String) : Option SinkPattern :=
  strongest ((rules.filter (·.hits statement)).map (·.pattern))

/-- The pattern found before, if it is at least as strong as a new one, and otherwise the new one.
-/
def retain (best : Option SinkPattern) (p : SinkPattern) : Option SinkPattern :=
  match best with
  | some b => if p.kind.rank ≤ b.kind.rank then some b else some p
  | none => some p

def findSinkWhere (keep : SinkKind → Bool) (rules : List SinkRule) (statement : String) :
    Option SinkPattern :=
  ((rules.filter fun r => keep r.pattern.kind && r.hits statement).map (·.pattern)).foldl retain none

/-- The sink of a command whose standard output is captured. -/
def findCapturedSink (rules : List SinkRule) (command : String) : Option SinkPattern :=
  findSinkWhere (· ≠ .stdout) rules command

/-- The sink of an assignment. What a command substitution prints is captured into the variable,
so standard output counts only outside substitutions; every other kind counts inside them too. -/
def findAssignmentSink (rules : List SinkRule) (statement : String) : Option SinkPattern :=
  let parts := Shell.splitSubstitutions .bare statement.toList
  let bodies := parts.inner.filterMap fun b => findCapturedSink rules (String.ofList b)
  bodies.foldl stronger (findSink rules (String.ofList parts.outer))

end SecretFlow

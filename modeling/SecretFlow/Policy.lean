import SecretFlow.Finding

set_option autoImplicit false
set_option relaxedAutoImplicit false

/-!
Policies: which findings count, and when they fail a scan.
-/

namespace SecretFlow

/-- Findings to leave out, and the confidence from which a finding fails the scan. -/
structure Policy where
  failOn : Confidence := .medium
  ignoreSecrets : List String := []
  ignoreReasons : List LeakReason := []
  deriving DecidableEq, Repr

structure PolicyVerdict where
  pass : Bool
  totalFindings : Nat
  effectiveFindings : Nat
  highestConfidence : Option Confidence
  failThreshold : Confidence
  deriving DecidableEq, Repr

namespace Policy

def keeps (p : Policy) (f : Finding) : Bool :=
  !p.ignoreSecrets.contains f.secret && !p.ignoreReasons.contains f.reason

def apply (p : Policy) (fs : List Finding) : List Finding :=
  fs.filter p.keeps

def highest (cs : List Confidence) : Option Confidence :=
  cs.foldl (fun best c =>
    match best with
    | none => some c
    | some b => if b.rank ≤ c.rank then some c else some b) none

/-- Judge findings: the scan fails if one that counts reaches the threshold. -/
def judge (p : Policy) (fs : List Finding) : PolicyVerdict :=
  let effective := (p.apply fs).map (·.confidence)
  { pass := !effective.any fun c => p.failOn.rank ≤ c.rank
    totalFindings := fs.length
    effectiveFindings := effective.length
    highestConfidence := highest effective
    failThreshold := p.failOn }

end Policy

end SecretFlow

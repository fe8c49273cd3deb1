/-!
The life of a row's submission: not submitted, then pending, then succeeded or failed for good.
-/

namespace Enrolment

inductive FailureKind where
  | rejected
  | transport
  | timeout
  deriving DecidableEq, Repr

def FailureKind.name : FailureKind → String
  | rejected => "rejected"
  | transport => "transport"
  | timeout => "timeout"

structure Failure where
  kind : FailureKind
  message : String
  deriving DecidableEq, Repr

inductive Status where
  | notSubmitted
  | pending
  | succeeded
  | failed (failure : Failure)
  deriving DecidableEq, Repr, Inhabited

namespace Status

def name : Status → String
  | notSubmitted => "not_submitted"
  | pending => "pending"
  | succeeded => "succeeded"
  | failed _ => "failed"

/-- The status as text; a failure says why. -/
def describe : Status → String
  | failed failure => "failed: " ++ failure.message
  | status => status.name

/-- A status that never changes again. -/
def isTerminal : Status → Bool
  | succeeded | failed _ => true
  | notSubmitted | pending => false

/-- The moves that the life of a submission allows. -/
def allows : Status → Status → Bool
  | notSubmitted, pending => true
  | pending, succeeded => true
  | pending, failed _ => true
  | _, _ => false

end Status
end Enrolment

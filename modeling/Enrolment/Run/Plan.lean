import Enrolment.Record
import Enrolment.Submission.Call

/-!
What is settled before a run starts: how many rows may be in progress and how long a call may
take, what the service does, when the run is cancelled, and whether anybody watches.
-/

namespace Enrolment

structure Policy where
  concurrency : Nat
  timeout : Duration
  deriving DecidableEq, Repr

namespace Policy

def standard : Policy :=
  ⟨1, .ofSeconds 30⟩

/-- How many rows may be in progress at once: at least one. -/
def slots (policy : Policy) : Nat :=
  max 1 policy.concurrency

def withConcurrency (policy : Policy) (concurrency : Nat) : Policy :=
  { policy with concurrency := max 1 concurrency }

def withTimeout (policy : Policy) (timeout : Duration) : Policy :=
  { policy with timeout := timeout }

end Policy

/-- The service, as the way in which its calls go: that of the call with a given number in the
run, counted from 0, for a given record. -/
abbrev Service := Nat → Record → Conduct

/-- When a run is cancelled. The token may be cancelled before the start, during the start of the
call with a given number, counted from 1, at a time after the start, or as soon as nothing can
happen any more at the instant in which a given number of updates is reached. -/
structure Cancellation where
  before : Bool := false
  onCall : Option Nat := none
  at? : Option Duration := none
  afterUpdates : Option Nat := none
  deriving DecidableEq, Repr

namespace Cancellation

def never : Cancellation := {}

/-- Whether the start of the given call cancels. -/
def byCall (cancellation : Cancellation) (number : Nat) : Bool :=
  cancellation.onCall = some number

def byTime (cancellation : Cancellation) (clock : Nat) : Bool :=
  cancellation.at?.any (·.nanoseconds ≤ clock)

def byUpdates (cancellation : Cancellation) (published : Nat) : Bool :=
  cancellation.afterUpdates.any (· ≤ published)

end Cancellation

structure Plan where
  policy : Policy
  service : Service
  cancellation : Cancellation
  /-- Whether updates reach a reader. -/
  watched : Bool

end Enrolment

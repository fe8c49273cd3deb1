import Enrolment.Duration
import Enrolment.Submission.Status
import Enrolment.Text.Blank

/-!
One call of the service that creates users: how it goes, and what the row's status becomes. A
call is made once for a row; whatever it gives is final.
-/

namespace Enrolment

inductive Ending where
  | created
  | rejected (status : Option Nat) (message : String)
  | unanswered (cause : String)
  | crashed
  deriving DecidableEq, Repr

def rejectionText (message : String) : String :=
  "rejected: " ++ message

/-- How a call goes: how long it takes, if it ends at all, and how it ends. -/
structure Conduct where
  takes : Option Duration
  ending : Ending
  deriving DecidableEq, Repr

def Conduct.atOnce (ending : Ending) : Conduct :=
  ⟨some ⟨0⟩, ending⟩

/-- What the run sees of a call. -/
inductive Resolution where
  | ended (ending : Ending)
  | timedOut
  deriving DecidableEq, Repr

/-- After how long a call is over for the run, and as what. A call that ends in the very moment
of its timeout has ended; so a call that is over at once never times out. -/
def Conduct.resolve (timeout : Duration) (conduct : Conduct) : Nat × Resolution :=
  match conduct.takes with
  | some span =>
      if span.nanoseconds ≤ timeout.nanoseconds then
        (span.nanoseconds, .ended conduct.ending)
      else
        (timeout.nanoseconds, .timedOut)
  | none => (timeout.nanoseconds, .timedOut)

namespace Failure

/-- Shown for a rejection that says nothing. -/
def silentRejection : String :=
  "request rejected"

def ofRejection (message : String) : Failure :=
  ⟨.rejected, if Text.allBlank message.toList then silentRejection else message⟩

/-- The cause of a transport failure is not shown. -/
def ofTransport : Failure :=
  ⟨.transport, "request failed"⟩

def ofTimeout (timeout : Duration) : Failure :=
  ⟨.timeout, "request timed out after " ++ timeout.text⟩

end Failure

/-- The status that a resolved call gives its row; a crash gives none. -/
def Resolution.status? (timeout : Duration) : Resolution → Option Status
  | .ended .created => some .succeeded
  | .ended (.rejected _ message) => some (.failed (.ofRejection message))
  | .ended (.unanswered _) => some (.failed .ofTransport)
  | .ended .crashed => none
  | .timedOut => some (.failed (.ofTimeout timeout))

end Enrolment

import Enrolment.Report
import Enrolment.Run.Work

/-!
A whole run of a batch, from its first moment to its last, and what it leaves: the batch with its
new statuses and an account of what happened.
-/

namespace Enrolment
namespace Run

def first (plan : Plan) (batch : Batch) : Moment where
  ledger := batch.ledger
  progress :=
    { remaining := batch.validIndices
      cancelled := plan.cancellation.before }

def last (entries : List Entry) (plan : Plan) (m : Moment) : Moment :=
  match _hstep : step entries plan m with
  | none => m
  | some next => last entries plan next
  termination_by m.progress.work
  decreasing_by exact work_lt_of_step _hstep

/-- What a run shows when it is over. -/
structure Account where
  calls : List Call
  /-- The rows whose calls came to their end, in that order. -/
  ends : List Nat
  updates : List Update
  /-- The report, unless a call took the run down. -/
  report : Option Report
  /-- Whether the token is cancelled in the end. -/
  cancelled : Bool
  deriving DecidableEq, Repr

end Run

/-- What a run of the batch leaves when it is over at the given moment. -/
def Batch.conclude (plan : Plan) (batch : Batch) (final : Run.Moment) : Batch × Run.Account :=
  let after : Batch := { batch with ledger := final.ledger }
  let p := final.progress
  (after,
    { calls := p.calls
      ends := p.ends
      updates := p.updates
      report := if p.crashed then none else some after.report
      cancelled := p.cancelled || plan.cancellation.byUpdates p.updates.length })

/-- Submit what is still to be submitted of a batch. -/
def Batch.run (plan : Plan) (batch : Batch) : Batch × Run.Account :=
  batch.conclude plan (Run.last batch.entries plan (Run.first plan batch))

end Enrolment

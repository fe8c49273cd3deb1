import Enrolment.Run.Outcome

/-!
A session with one batch. The view of the batch is kept to the end; the batch itself can be given
away to a run of its own, and whoever held it then holds an empty one.
-/

namespace Enrolment

structure Session where
  view : Batch
  givenAway : Bool
  deriving DecidableEq, Repr

namespace Session

def ofBatch (batch : Batch) : Session :=
  ⟨batch, false⟩

/-- The batch that is still held. -/
def batch (session : Session) : Batch :=
  if session.givenAway then .empty else session.view

def run (plan : Plan) (session : Session) : Session × Run.Account :=
  let (after, account) := session.batch.run plan
  (if session.givenAway then session else { session with view := after }, account)

/-- Give the batch away to a run of its own. -/
def spawn (plan : Plan) (session : Session) : Session × Run.Account :=
  let (session, account) := session.run plan
  ({ session with givenAway := true }, account)

end Session
end Enrolment

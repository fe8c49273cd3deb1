import Enrolment.Batch
import Enrolment.Run.Plan

/-!
A run at one moment. The ledger is shared with everybody who looks at the batch; the rest belongs
to the run: the rows it has not looked at, those it works on, its clock and what it has noted.
-/

namespace Enrolment
namespace Run

/-- A row in progress that can go on now: its call has not started, or it is over. -/
inductive Ready where
  | claimed (row : Nat)
  | resolved (row : Nat) (resolution : Resolution)
  deriving DecidableEq, Repr

namespace Ready

def row : Ready → Nat
  | claimed row => row
  | resolved row _ => row

/-- Whether the row's call has started. -/
def hasStarted : Ready → Bool
  | claimed _ => false
  | resolved _ _ => true

/-- How much work the row stands for. -/
def weight : Ready → Nat
  | claimed _ => 3
  | resolved _ _ => 1

def totalWeight : List Ready → Nat
  | [] => 0
  | ready :: queue => ready.weight + totalWeight queue

end Ready

/-- A row whose call is under way, until when, and what the call is over as. -/
structure Waiting where
  row : Nat
  overAt : Nat
  resolution : Resolution
  deriving DecidableEq, Repr

/-- A call, noted when it starts: how many rows were pending then and how many calls were under
way, itself included. -/
structure Call where
  row : Nat
  record : Record
  pending : Nat
  inFlight : Nat
  deriving DecidableEq, Repr

/-- A change of one row, as it is published. -/
structure Update where
  row : Nat
  status : Status
  deriving DecidableEq, Repr

/-- What a run keeps for itself. The notes are in order of time. -/
structure Progress where
  remaining : List Nat
  ready : List Ready := []
  waiting : List Waiting := []
  clock : Nat := 0
  cancelled : Bool := false
  crashed : Bool := false
  calls : List Call := []
  ends : List Nat := []
  updates : List Update := []
  deriving DecidableEq, Repr

structure Moment where
  ledger : Ledger
  progress : Progress
  deriving DecidableEq, Repr

namespace Progress

def inProgress (p : Progress) : Nat :=
  p.ready.length + p.waiting.length

def underWay (p : Progress) : Nat :=
  p.waiting.length + p.ready.countP Ready.hasStarted

/-- What is left to do: every step makes it less. -/
def work (p : Progress) : Nat :=
  4 * p.remaining.length + Ready.totalWeight p.ready + 2 * p.waiting.length

/-- Publish a change, if anybody watches. -/
def publish (plan : Plan) (p : Progress) (row : Nat) (status : Status) : Progress :=
  if plan.watched then { p with updates := p.updates ++ [⟨row, status⟩] } else p

end Progress
end Run
end Enrolment

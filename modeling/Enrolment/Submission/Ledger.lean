import Enrolment.Submission.Status

/-!
The ledger of a batch: the status of every row, by position. Each change goes through one
operation, which refuses what the life of a submission does not allow.
-/

namespace Enrolment

structure Ledger where
  statuses : List Status
  deriving DecidableEq, Repr

inductive LedgerError where
  | rowOutOfRange (index size : Nat)
  | invalidTransition (index : Nat) (current requested : Status)
  deriving DecidableEq, Repr

def LedgerError.message : LedgerError → String
  | rowOutOfRange index size =>
      "Row index " ++ toString index ++ " out of range for batch of " ++ toString size
  | invalidTransition index current requested =>
      "Invalid transition for row " ++ toString index ++ ": " ++ current.name ++ " -> " ++
        requested.name

namespace Ledger

def blank (size : Nat) : Ledger :=
  ⟨List.replicate size .notSubmitted⟩

def size (ledger : Ledger) : Nat :=
  ledger.statuses.length

def isEmpty (ledger : Ledger) : Bool :=
  ledger.size = 0

def get? (ledger : Ledger) (index : Nat) : Option Status :=
  ledger.statuses[index]?

def transition (ledger : Ledger) (index : Nat) (next : Status) : Except LedgerError Ledger :=
  match ledger.get? index with
  | none => .error (.rowOutOfRange index ledger.size)
  | some current =>
      if current.allows next then
        .ok ⟨ledger.statuses.set index next⟩
      else
        .error (.invalidTransition index current next)

inductive Request where
  | transition (index : Nat) (next : Status)
  | get (index : Nat)
  | snapshot
  | size
  deriving DecidableEq, Repr

inductive Answer where
  | moved
  | refused (error : LedgerError)
  | status (status : Option Status)
  | statuses (statuses : List Status)
  | size (size : Nat) (empty : Bool)
  deriving DecidableEq, Repr

def perform (ledger : Ledger) : Request → Answer × Ledger
  | .transition index next =>
      match ledger.transition index next with
      | .ok changed => (.moved, changed)
      | .error error => (.refused error, ledger)
  | .get index => (.status (ledger.get? index), ledger)
  | .snapshot => (.statuses ledger.statuses, ledger)
  | .size => (.size ledger.size ledger.isEmpty, ledger)

end Ledger
end Enrolment

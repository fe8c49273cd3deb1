import Enrolment.Record
import Enrolment.Submission.Ledger

/-!
A batch: the judged rows of one table, which never change, and the ledger of their submissions.
-/

namespace Enrolment

/-- A record with its verdict. -/
structure Entry where
  record : Record
  verdict : Verdict
  deriving DecidableEq, Repr

structure Batch where
  entries : List Entry
  ledger : Ledger
  deriving DecidableEq, Repr

structure RowStatus where
  index : Nat
  record : Record
  verdict : Verdict
  status : Status
  deriving DecidableEq, Repr

namespace Batch

def ofEntries (entries : List Entry) : Batch :=
  ⟨entries, Ledger.blank entries.length⟩

def ofText (delimiter : Char) (text : String) : Except DecodeError Batch :=
  (Sheet.decode delimiter text).map fun rows =>
    ofEntries ((judge rows).map fun (record, verdict) => ⟨record, verdict⟩)

def empty : Batch :=
  ofEntries []

def size (batch : Batch) : Nat :=
  batch.entries.length

def isEmpty (batch : Batch) : Bool :=
  batch.entries.isEmpty

def status? (batch : Batch) (index : Nat) : Option Status :=
  batch.ledger.get? index

def statuses (batch : Batch) : List Status :=
  batch.ledger.statuses

/-- The rows that may be submitted, in file order. -/
def validIndices (batch : Batch) : List Nat :=
  batch.entries.zipIdx.filterMap fun (entry, index) =>
    if entry.verdict.isValid then some index else none

def validRecords (batch : Batch) : List Record :=
  (batch.entries.filter (·.verdict.isValid)).map (·.record)

def validCount (batch : Batch) : Nat :=
  batch.validIndices.length

def rows (batch : Batch) : List RowStatus :=
  (batch.entries.zip batch.statuses).zipIdx.map fun ((entry, status), index) =>
    ⟨index, entry.record, entry.verdict, status⟩

end Batch
end Enrolment

import Enrolment.Batch

/-!
The report of a batch: how many rows there are, how many are valid, and how many of the valid
ones are in each status.
-/

namespace Enrolment

structure Report where
  total : Nat
  valid : Nat
  invalid : Nat
  succeeded : Nat
  failed : Nat
  pending : Nat
  notSubmitted : Nat
  deriving DecidableEq, Repr

namespace Report

def isSettled (report : Report) : Bool :=
  report.pending = 0 && report.notSubmitted = 0

def line (report : Report) : String :=
  " ".intercalate
    ["total=" ++ toString report.total,
      "valid=" ++ toString report.valid,
      "invalid=" ++ toString report.invalid,
      "succeeded=" ++ toString report.succeeded,
      "failed=" ++ toString report.failed,
      "pending=" ++ toString report.pending,
      "not_submitted=" ++ toString report.notSubmitted]

def count (report : Report) (verdict : Verdict) (status : Status) : Report :=
  match verdict, status with
  | .invalid _, _ => { report with invalid := report.invalid + 1 }
  | .valid, .notSubmitted =>
      { report with valid := report.valid + 1, notSubmitted := report.notSubmitted + 1 }
  | .valid, .pending => { report with valid := report.valid + 1, pending := report.pending + 1 }
  | .valid, .succeeded =>
      { report with valid := report.valid + 1, succeeded := report.succeeded + 1 }
  | .valid, .failed _ => { report with valid := report.valid + 1, failed := report.failed + 1 }

/-- The report of entries with the statuses at the same positions. Entries without a status count
in the total only. -/
def summarize (entries : List Entry) (statuses : List Status) : Report :=
  (entries.zip statuses).foldl (fun report (entry, status) => report.count entry.verdict status)
    ⟨entries.length, 0, 0, 0, 0, 0, 0⟩

end Report

def Batch.report (batch : Batch) : Report :=
  Report.summarize batch.entries batch.statuses

end Enrolment

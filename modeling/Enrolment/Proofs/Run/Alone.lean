import Enrolment.Proofs.Import
import Enrolment.Proofs.Run.Crash
import Enrolment.Proofs.Run.Freeze

/-!
Runs that are left alone: nobody cancels them, and no call takes them down. Of a fresh batch such a
run submits each valid row, in file order, and the figures of its report count what the calls gave.
-/

namespace Enrolment
namespace Run

theorem cancelled_claim (plan : Plan) (m : Moment) (row : Nat) (rest : List Nat) :
    (claim plan m row rest).progress.cancelled = m.progress.cancelled := by
  rw [claim]
  split
  · simp only [publish_eq]
  · rfl

theorem cancelled_finish (plan : Plan) (m : Moment) (row : Nat) (resolution : Resolution)
    (rest : List Ready) : (finish plan m row resolution rest).progress.cancelled =
      m.progress.cancelled := by
  simp only [finish]
  split
  · rfl
  · split
    · simp only [publish_eq]
    · rfl

section

variable {entries : List Entry} {plan : Plan} {m : Moment}

/-- Only the plan cancels a run that follows the clock. -/
theorem cancelled_step (hnever : plan.cancellation = .never) {next : Moment}
    (hstep : step entries plan m = some next) :
    next.progress.cancelled = m.progress.cancelled := by
  have hproceed : proceed entries plan m = some next →
      next.progress.cancelled = m.progress.cancelled := by
    intro hstep
    rw [proceed] at hstep
    split at hstep
    · split at hstep
      · rw [← Option.some.inj hstep, cancelled_start, hnever]
        exact Bool.or_false _
      · rw [← Option.some.inj hstep]
    · rw [← Option.some.inj hstep, cancelled_finish]
    · split at hstep
      · cases hstep
      · rw [← Option.some.inj hstep, moveClock, hnever]
        exact (Bool.or_false _).trans (Bool.or_false _)
  rw [step] at hstep
  split at hstep
  · cases hstep
  · split at hstep
    · split at hstep
      · split at hstep
        · rw [← Option.some.inj hstep]
        · rw [← Option.some.inj hstep, cancelled_claim]
      · exact hproceed hstep
    · exact hproceed hstep

theorem cancelled_last (hnever : plan.cancellation = .never) :
    (last entries plan m).progress.cancelled = m.progress.cancelled := by
  fun_induction last entries plan m with
  | case1 m _ => rfl
  | case2 m next hstep ih => rw [ih, cancelled_step hnever hstep]

end
end Run

namespace Batch
open Run

theorem not_cancelled_run {plan : Plan} (hnever : plan.cancellation = .never) (batch : Batch) :
    (batch.run plan).2.cancelled = false := by
  have hlast : (last batch.entries plan (first plan batch)).progress.cancelled = false := by
    rw [cancelled_last hnever, first, hnever]
    rfl
  simp only [run, conclude, hlast, hnever]
  rfl

section

variable {batch after : Batch} {plan : Plan} {account : Account}

theorem MayRun.entries_eq (h : batch.MayRun plan after account) : after.entries = batch.entries := by
  obtain ⟨_, _, _, _, hleft⟩ := h
  obtain ⟨rfl, _⟩ := Prod.mk.inj hleft
  rfl

theorem MayRun.status_of_call (h : batch.MayRun plan after account) (hplan : plan.NeverCrashes)
    {n : Nat} {call : Call} (hcall : account.calls[n]? = some call) :
    after.status? call.row = some (plan.outcome n call.record) := by
  obtain ⟨claims, m, hhistory, hover, hleft⟩ := h
  obtain ⟨rfl, rfl⟩ := Prod.mk.inj hleft
  exact (finished_of_over hplan hhistory hover).status_of_call hcall

end

section Fresh

variable {entries : List Entry} {after : Batch} {plan : Plan} {account : Account}

/-- Each valid row is called for once, in file order. -/
theorem MayRun.calls_eq (h : (ofEntries entries).MayRun plan after account)
    (hplan : plan.NeverCrashes) (hopen : account.cancelled = false) :
    account.calls.map Call.row = (ofEntries entries).validIndices ∧
      account.calls.map Call.record = (ofEntries entries).validRecords := by
  refine ⟨(h.rows_of_open hplan hopen).1.trans (eligible_ofEntries entries), ?_⟩
  have hrecords := h.map_record hplan hopen
  rw [eligible_ofEntries, map_validIndices] at hrecords
  exact List.map_injective_iff.2 (Option.some_injective Record) hrecords

/-- The statuses of the valid rows are what their calls gave. -/
theorem MayRun.map_status? (h : (ofEntries entries).MayRun plan after account)
    (hplan : plan.NeverCrashes) (hopen : account.cancelled = false) :
    (ofEntries entries).validIndices.map after.status? =
      (ofEntries entries).validRecords.zipIdx.map fun (record, n) =>
        some (plan.outcome n record) := by
  obtain ⟨hrows, hrecords⟩ := h.calls_eq hplan hopen
  rw [← hrows, ← hrecords]
  apply List.ext_getElem?
  intro n
  simp only [List.getElem?_map, List.getElem?_zipIdx]
  cases hcall : account.calls[n]? with
  | none => rfl
  | some call => simp [h.status_of_call hplan hcall]

theorem MayRun.matched (h : (ofEntries entries).MayRun plan after account) : after.Matched := by
  refine (matched_ofEntries entries).leadsTo h.entries_eq ?_
  exact leadsTo_of_mayBecome (.run .fresh h)

theorem MayRun.countIn_eq (h : (ofEntries entries).MayRun plan after account)
    (hplan : plan.NeverCrashes) (hopen : account.cancelled = false) (kind : Status → Bool) :
    after.countIn kind = (ofEntries entries).validRecords.zipIdx.countP fun (record, n) =>
      kind (plan.outcome n record) := by
  have hvalid : after.countIn kind =
      (ofEntries entries).validIndices.countP fun row => (after.status? row).any kind := by
    rw [h.matched.countIn_eq, validIndices, List.countP_filterMap, h.entries_eq]
    congr 1
    funext entry
    cases hvalid : entry.1.verdict.isValid <;> simp [hvalid]
  have hoption : ∀ rows : List Nat, (rows.countP fun row => (after.status? row).any kind) =
      (rows.map after.status?).countP fun status => status.any kind := fun rows => by
    rw [List.countP_map]
    rfl
  rw [hvalid, hoption, h.map_status? hplan hopen, List.countP_map]
  rfl

/-- In the end the report has no open rows, and each row that succeeded or failed is one whose call
gave that. -/
theorem MayRun.report_settled (h : (ofEntries entries).MayRun plan after account)
    (hplan : plan.NeverCrashes) (hopen : account.cancelled = false) :
    after.report.pending = 0 ∧ after.report.notSubmitted = 0 ∧
      after.report.valid = (ofEntries entries).validCount ∧
      after.report.succeeded + after.report.failed = (ofEntries entries).validCount := by
  have hnone : ∀ status, status.isTerminal = false → after.countIn (· = status) = 0 := by
    intro status hstatus
    rw [h.countIn_eq hplan hopen, List.countP_eq_zero]
    rintro ⟨record, n⟩ _ heq
    have hterminal := hplan.isTerminal_outcome n record
    rw [of_decide_eq_true heq, hstatus] at hterminal
    cases hterminal
  have hvalid : after.report.valid = (ofEntries entries).validCount := by
    rw [report_eq, h.matched.countP_valid_eq, validCount, validIndices, h.entries_eq]
    rfl
  have hsum : after.report.valid = after.report.succeeded + after.report.failed +
      after.report.pending + after.report.notSubmitted := by
    rw [report_eq]
    exact after.countP_valid_rows
  have hpending : after.report.pending = 0 := by
    rw [report_eq]
    exact hnone .pending rfl
  have hnot : after.report.notSubmitted = 0 := by
    rw [report_eq]
    exact hnone .notSubmitted rfl
  exact ⟨hpending, hnot, hvalid, by omega⟩

theorem MayRun.report_eq (h : (ofEntries entries).MayRun plan after account)
    (hplan : plan.NeverCrashes) (hopen : account.cancelled = false) :
    after.report =
      { total := (ofEntries entries).size
        valid := (ofEntries entries).validCount
        invalid := (ofEntries entries).size - (ofEntries entries).validCount
        succeeded := after.report.succeeded
        failed := after.report.failed
        pending := 0
        notSubmitted := 0 } := by
  obtain ⟨hpending, hnot, hvalid, -⟩ := h.report_settled hplan hopen
  have hsize : after.size = (ofEntries entries).size := congrArg List.length h.entries_eq
  have htotal : after.report.total = (ofEntries entries).size := by
    rw [Batch.report_eq, hsize]
  have hinvalid : after.report.invalid =
      (ofEntries entries).size - (ofEntries entries).validCount := by
    rw [← hvalid, ← hsize, Batch.report_eq, h.matched.countP_invalid_eq,
      h.matched.countP_valid_eq]
  calc after.report = ⟨after.report.total, after.report.valid, after.report.invalid,
          after.report.succeeded, after.report.failed, after.report.pending,
          after.report.notSubmitted⟩ := rfl
    _ = _ := by rw [htotal, hvalid, hinvalid, hpending, hnot]

end Fresh
end Batch
end Enrolment

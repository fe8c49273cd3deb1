import Enrolment.Proofs.Report
import Enrolment.Proofs.Run.Order
import Enrolment.Proofs.Run.Once

/-!
The report is right at every moment of every run, not only at the end. The ledger never grows or
shrinks and rows that are not valid are never touched, so the report accounts for all rows; every
move brings it forward or leaves it as it was, and what a run reports is the report of what it left.
-/

namespace Enrolment
namespace Run

/-- The batch as it is to be seen at a moment of a run. -/
def Moment.batch (m : Moment) (entries : List Entry) : Batch :=
  ⟨entries, m.ledger⟩

theorem leadsTo_of_mayBecome {batch after : Batch} {accounts : List Account}
    (h : batch.MayBecome accounts after) : batch.ledger.LeadsTo after.ledger := by
  induction h with
  | fresh => exact .refl
  | run _ hrun ih =>
      obtain ⟨claims, m, hhistory, _, hleft⟩ := hrun
      rw [← (Prod.mk.inj hleft).1]
      exact ih.trans hhistory.leadsTo

theorem report_of_mayRun {batch after : Batch} {plan : Plan} {account : Account}
    (h : batch.MayRun plan after account) :
    (∀ report, account.report = some report →
      report = Report.summarize batch.entries after.statuses) ∧
    (plan.NeverCrashes →
      account.report = some (Report.summarize batch.entries after.statuses)) := by
  obtain ⟨claims, m, hhistory, _, hleft⟩ := h
  obtain ⟨rfl, rfl⟩ := Prod.mk.inj hleft
  constructor
  · intro report hreport
    simp only [Option.ite_none_left_eq_some, Option.some.injEq] at hreport
    exact hreport.2.symm
  · intro hplan
    exact if_neg (by simp [not_crashed_of_history hplan hhistory])

/-- At any moment of any run after any number of runs the report of that moment accounts for all
rows. From there on it only comes forward. What the run reports in the end, as it does unless a call
takes it down, is the report of what it left. -/
theorem report_accounts_for_rows {entries : List Entry} {accounts : List Account} {batch : Batch}
    {plan : Plan} {claims : List Nat} {m : Moment}
    (hruns : (Batch.ofEntries entries).MayBecome accounts batch)
    (hnow : History entries plan (first plan batch) claims m) :
    (m.batch entries).report.Accounts (m.batch entries) ∧
      (∀ next, Move entries plan m next →
        (m.batch entries).report.Advances (next.batch entries).report) ∧
      (∀ further later, History entries plan m further later →
        (m.batch entries).report.Advances (later.batch entries).report) ∧
      ∀ after account, batch.MayRun plan after account →
        (∀ report, account.report = some report →
          report = Report.summarize entries after.statuses) ∧
        (plan.NeverCrashes → account.report = some (Report.summarize entries after.statuses)) := by
  obtain ⟨rfl, hspent⟩ := spent_of_mayBecome hruns
  have hledger := (leadsTo_of_mayBecome hruns).trans hnow.leadsTo
  have hmatched : (m.batch batch.entries).Matched :=
    (Batch.matched_ofEntries batch.entries).leadsTo rfl hledger
  have huntouched := (hspent.of_kept (kept_of_history hnow)).passed
  exact ⟨hmatched.accounts huntouched, fun _ hmove => hmatched.advances rfl hmove.leadsTo,
    fun _ _ hlater => hmatched.advances rfl hlater.leadsTo, fun _ _ => report_of_mayRun⟩

/-- A second run, after one that a call took down. It has passed the two rows that were left pending
and claimed the last one. -/
def secondRun : Moment :=
  let start := first calmPlan (Batch.small.run crashingPlan).1
  claim calmPlan { start with progress := { start.progress with remaining := [3] } } 3 []

theorem history_secondRun : History Batch.small.entries calmPlan
    (first calmPlan (Batch.small.run crashingPlan).1) [3] secondRun := by
  let start := first calmPlan (Batch.small.run crashingPlan).1
  have hzero : step Batch.small.entries calmPlan start =
      some { start with progress := { start.progress with remaining := [2, 3] } } := by
    decide +kernel
  have htwo : step Batch.small.entries calmPlan
      { start with progress := { start.progress with remaining := [2, 3] } } =
      some { start with progress := { start.progress with remaining := [3] } } := by
    decide +kernel
  have hthree : step Batch.small.entries calmPlan
      { start with progress := { start.progress with remaining := [3] } } = some secondRun := by
    decide +kernel
  have hclaims : turned start.ledger secondRun.ledger = [3] := by decide +kernel
  have hhistory := ((History.start.move (.own hzero)).move (.own htwo)).move (.own hthree)
  rw [hclaims] at hhistory
  simpa [turned_self] using hhistory

theorem report_accounts_for_rows_after_crash :
    (Batch.small.run crashingPlan).2.report = none ∧
      (secondRun.batch Batch.small.entries).report = ⟨4, 3, 1, 0, 0, 3, 0⟩ ∧
      (secondRun.batch Batch.small.entries).report.Accounts
        (secondRun.batch Batch.small.entries) ∧
      ((Batch.small.run crashingPlan).1.run calmPlan).2.report = some ⟨4, 3, 1, 1, 0, 2, 0⟩ ∧
      ((Batch.small.run crashingPlan).1.run calmPlan).2.report =
        some (Report.summarize Batch.small.entries
          ((Batch.small.run crashingPlan).1.run calmPlan).1.statuses) := by
  have hcalm : calmPlan.NeverCrashes := by
    intro number record h
    cases h
  obtain ⟨haccounts, _, _, hend⟩ := report_accounts_for_rows
    (.run .fresh (Batch.small.mayRun_run crashingPlan)) history_secondRun
  exact ⟨by decide +kernel, by decide +kernel, haccounts, by decide +kernel,
    (hend _ _ (Batch.mayRun_run calmPlan _)).2 hcalm⟩

end Run
end Enrolment

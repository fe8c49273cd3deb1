import Enrolment.Proofs.Run.Order

/-!
What a run leaves does not depend on how it went. When a run is over that nobody cancelled, the
status of each row that it found open is what the row's own call gave, whatever the other calls
did and in whatever order they ended; so neither the number of slots nor the speed of the service
shows in the result.
-/

namespace Enrolment

/-- The status that a call of the given conduct stands for. -/
inductive Conduct.Gives (timeout : Duration) (conduct : Conduct) : Status → Prop where
  | created {span : Duration} : conduct.takes = some span →
      span.nanoseconds ≤ timeout.nanoseconds → conduct.ending = .created →
      Gives timeout conduct .succeeded
  | rejected {span : Duration} {code : Option Nat} {message : String} :
      conduct.takes = some span → span.nanoseconds ≤ timeout.nanoseconds →
      conduct.ending = .rejected code message → Text.allBlank message.toList = false →
      Gives timeout conduct (.failed ⟨.rejected, message⟩)
  | silentlyRejected {span : Duration} {code : Option Nat} {message : String} :
      conduct.takes = some span → span.nanoseconds ≤ timeout.nanoseconds →
      conduct.ending = .rejected code message → Text.allBlank message.toList = true →
      Gives timeout conduct (.failed ⟨.rejected, "request rejected"⟩)
  | unanswered {span : Duration} {cause : String} :
      conduct.takes = some span → span.nanoseconds ≤ timeout.nanoseconds →
      conduct.ending = .unanswered cause →
      Gives timeout conduct (.failed ⟨.transport, "request failed"⟩)
  | late : (∀ span, conduct.takes = some span → timeout.nanoseconds < span.nanoseconds) →
      Gives timeout conduct
        (.failed ⟨.timeout, "request timed out after " ++ timeout.text⟩)

/-- A call in time is not late. -/
theorem Conduct.not_late {timeout : Duration} {conduct : Conduct} {span : Duration}
    (htakes : conduct.takes = some span) (hspan : span.nanoseconds ≤ timeout.nanoseconds) :
    ¬∀ other, conduct.takes = some other → timeout.nanoseconds < other.nanoseconds :=
  fun hlate => Nat.not_lt.2 hspan (hlate span htakes)

theorem Conduct.Gives.unique {timeout : Duration} {conduct : Conduct} {first second : Status}
    (hfirst : conduct.Gives timeout first) (hsecond : conduct.Gives timeout second) :
    first = second := by
  cases hfirst with
  | late hlate =>
      cases hsecond with
      | late _ => rfl
      | created htakes hspan _ | rejected htakes hspan _ _ | silentlyRejected htakes hspan _ _
      | unanswered htakes hspan _ => exact absurd hlate (Conduct.not_late htakes hspan)
  | created htakes hspan hending =>
      cases hsecond with
      | late hlate => exact absurd hlate (Conduct.not_late htakes hspan)
      | created _ _ _ => rfl
      | rejected _ _ h _ | silentlyRejected _ _ h _ | unanswered _ _ h => simp [hending] at h
  | rejected htakes hspan hending hblank =>
      cases hsecond with
      | late hlate => exact absurd hlate (Conduct.not_late htakes hspan)
      | rejected _ _ h _ =>
          rw [hending] at h
          obtain ⟨rfl, rfl⟩ := Ending.rejected.inj h
          rfl
      | silentlyRejected _ _ h hother =>
          rw [hending] at h
          obtain ⟨rfl, rfl⟩ := Ending.rejected.inj h
          simp [hblank] at hother
      | created _ _ h | unanswered _ _ h => simp [hending] at h
  | silentlyRejected htakes hspan hending hblank =>
      cases hsecond with
      | late hlate => exact absurd hlate (Conduct.not_late htakes hspan)
      | silentlyRejected _ _ _ _ => rfl
      | rejected _ _ h hother =>
          rw [hending] at h
          obtain ⟨rfl, rfl⟩ := Ending.rejected.inj h
          simp [hblank] at hother
      | created _ _ h | unanswered _ _ h => simp [hending] at h
  | unanswered htakes hspan hending =>
      cases hsecond with
      | late hlate => exact absurd hlate (Conduct.not_late htakes hspan)
      | unanswered _ _ _ => rfl
      | created _ _ h | rejected _ _ h _ | silentlyRejected _ _ h _ => simp [hending] at h

theorem Conduct.resolve_of_inTime {timeout : Duration} {conduct : Conduct} {span : Duration}
    (htakes : conduct.takes = some span) (hspan : span.nanoseconds ≤ timeout.nanoseconds) :
    (conduct.resolve timeout).2 = .ended conduct.ending := by
  rw [Conduct.resolve, htakes]
  simp only [if_pos hspan]

theorem Conduct.resolve_of_late {timeout : Duration} {conduct : Conduct}
    (h : ∀ span, conduct.takes = some span → timeout.nanoseconds < span.nanoseconds) :
    (conduct.resolve timeout).2 = .timedOut := by
  rw [Conduct.resolve]
  cases htakes : conduct.takes with
  | none => rfl
  | some span => simp only [if_neg (Nat.not_le.2 (h span htakes))]

theorem Conduct.resolve_eq_ended_iff {timeout : Duration} {conduct : Conduct} {ending : Ending} :
    (conduct.resolve timeout).2 = .ended ending ↔
      conduct.takes.any (·.nanoseconds ≤ timeout.nanoseconds) = true ∧ conduct.ending = ending := by
  rw [resolve]
  cases conduct.takes with
  | none => simp
  | some span =>
      by_cases hspan : span.nanoseconds ≤ timeout.nanoseconds
      · simp [hspan]
      · simp [hspan]

theorem Plan.NeverCrashes.gives {plan : Plan} (h : plan.NeverCrashes) (number : Nat)
    (record : Record) :
    (plan.service number record).Gives plan.policy.timeout (plan.outcome number record) := by
  have hcrash := h number record
  have hlate : (∀ span, (plan.service number record).takes = some span →
        plan.policy.timeout.nanoseconds < span.nanoseconds) →
      (plan.service number record).Gives plan.policy.timeout (plan.outcome number record) := by
    intro hlate
    have hresolve : plan.resolution number record = .timedOut := Conduct.resolve_of_late hlate
    rw [Plan.outcome, hresolve]
    exact .late hlate
  cases htakes : (plan.service number record).takes with
  | none => exact hlate (by rw [htakes]; intro span hspan; cases hspan)
  | some span =>
      by_cases hspan : span.nanoseconds ≤ plan.policy.timeout.nanoseconds
      · have hresolve : plan.resolution number record =
            .ended (plan.service number record).ending :=
          Conduct.resolve_of_inTime htakes hspan
        rw [hresolve] at hcrash
        rw [Plan.outcome, hresolve]
        cases hending : (plan.service number record).ending with
        | crashed => exact absurd (congrArg Resolution.ended hending) hcrash
        | created => exact .created htakes hspan hending
        | unanswered cause => exact .unanswered htakes hspan hending
        | rejected code message =>
            cases hblank : Text.allBlank message.toList with
            | true =>
                simp only [Resolution.status?, Failure.ofRejection, hblank, if_true,
                  Option.getD_some]
                exact .silentlyRejected htakes hspan hending hblank
            | false =>
                simp only [Resolution.status?, Failure.ofRejection, hblank, Option.getD_some]
                exact .rejected htakes hspan hending hblank
      · apply hlate
        intro other hother
        rw [htakes] at hother
        obtain rfl := Option.some.inj hother
        exact Nat.not_le.1 hspan

namespace Batch
open Run

/-- The status of each row when a run is over that nobody cancelled: that of a row that was open is
given by its call, and that of another row has not changed. -/
structure Settled (batch : Batch) (plan : Plan) (after : Batch) : Prop where
  entries_eq : after.entries = batch.entries
  kept : ∀ row, row ∉ batch.eligible → after.status? row = batch.status? row
  given : ∀ n row, batch.eligible[n]? = some row →
    ∃ entry status, batch.entries[row]? = some entry ∧ after.status? row = some status ∧
      (plan.service n entry.record).Gives plan.policy.timeout status

theorem MayRun.settled {batch after : Batch} {plan : Plan} {account : Account}
    (h : batch.MayRun plan after account) (hplan : plan.NeverCrashes)
    (hopen : account.cancelled = false) :
    batch.Settled plan after ∧ account.report = some after.report := by
  obtain ⟨claims, m, hhistory, hover, hleft⟩ := h
  obtain ⟨rfl, rfl⟩ := Prod.mk.inj hleft
  have hcancelled : m.progress.cancelled = false := (Bool.or_eq_false_iff.1 hopen).1
  have f := finished_of_over hplan hhistory hover
  have heligible : m.progress.calls.map Call.row = batch.eligible := by
    rw [← f.claims_eq]
    exact f.all_of_open hcancelled
  refine ⟨⟨rfl, ?_, ?_⟩, ?_⟩
  · intro row hrow
    apply f.kept.untouched row
    rw [f.all_of_open hcancelled]
    exact hrow
  · intro n row hrow
    rw [← heligible, List.getElem?_map] at hrow
    obtain ⟨call, hcall, rfl⟩ := Option.map_eq_some_iff.1 hrow
    obtain ⟨entry, hentry, hrecord⟩ := f.kept.records call (List.mem_of_getElem? hcall)
    refine ⟨entry, plan.outcome n entry.record, hentry, ?_, hplan.gives n entry.record⟩
    rw [← hrecord]
    exact f.status_of_call hcall
  · exact if_neg (by rw [not_crashed_of_history hplan hhistory]; simp)

/-- Two plans under which a row's call goes the same way leave the row the same. -/
theorem Settled.status_eq {batch leftAfter rightAfter : Batch} {left right : Plan}
    (hleft : batch.Settled left leftAfter) (hright : batch.Settled right rightAfter)
    (htimeout : left.policy.timeout = right.policy.timeout) {n row : Nat} {entry : Entry}
    (hrow : batch.eligible[n]? = some row) (hentry : batch.entries[row]? = some entry)
    (hsame : left.service n entry.record = right.service n entry.record) :
    leftAfter.status? row = rightAfter.status? row := by
  obtain ⟨leftEntry, leftStatus, hleftEntry, hleftStatus, hleftGives⟩ := hleft.given n row hrow
  obtain ⟨rightEntry, rightStatus, hrightEntry, hrightStatus, hrightGives⟩ :=
    hright.given n row hrow
  obtain rfl : entry = leftEntry := Option.some.inj (hentry.symm.trans hleftEntry)
  obtain rfl : entry = rightEntry := Option.some.inj (hentry.symm.trans hrightEntry)
  rw [hsame, htimeout] at hleftGives
  rw [hleftStatus, hrightStatus, hleftGives.unique hrightGives]

theorem Settled.eq_of_service_eq {batch leftAfter rightAfter : Batch} {left right : Plan}
    (hleft : batch.Settled left leftAfter) (hright : batch.Settled right rightAfter)
    (htimeout : left.policy.timeout = right.policy.timeout)
    (hservice : left.service = right.service) : leftAfter = rightAfter := by
  apply Batch.ext_status? (hleft.entries_eq.trans hright.entries_eq.symm)
  intro row
  by_cases hrow : row ∈ batch.eligible
  · obtain ⟨n, hn⟩ := List.getElem?_of_mem hrow
    obtain ⟨entry, _, hentry, _, _⟩ := hleft.given n row hn
    exact hleft.status_eq hright htimeout hn hentry (by rw [hservice])
  · exact (hleft.kept row hrow).trans (hright.kept row hrow).symm

/-- Two runs of one batch that nobody cancelled, with whatever numbers of slots and orders of
answers. If the service is the same they leave the same batch and report. A row that was not open
keeps its status, any other gets what its call gives, and calls for other rows have no part in it. -/
theorem result_independent_of_schedule {batch leftAfter rightAfter : Batch} {left right : Plan}
    {leftAccount rightAccount : Account}
    (hleftPlan : left.NeverCrashes) (hrightPlan : right.NeverCrashes)
    (htimeout : left.policy.timeout = right.policy.timeout)
    (hleft : batch.MayRun left leftAfter leftAccount)
    (hright : batch.MayRun right rightAfter rightAccount)
    (hleftOpen : leftAccount.cancelled = false) (hrightOpen : rightAccount.cancelled = false) :
    (left.service = right.service → leftAfter = rightAfter ∧
      leftAccount.report = rightAccount.report ∧ leftAccount.report = some leftAfter.report) ∧
    (∀ row, row ∉ batch.eligible → leftAfter.status? row = batch.status? row) ∧
    (∀ n row, batch.eligible[n]? = some row →
      ∃ entry status, batch.entries[row]? = some entry ∧
        leftAfter.status? row = some status ∧
        (left.service n entry.record).Gives left.policy.timeout status) ∧
    (∀ n row entry, batch.eligible[n]? = some row → batch.entries[row]? = some entry →
      left.service n entry.record = right.service n entry.record →
      leftAfter.status? row = rightAfter.status? row) := by
  obtain ⟨sleft, hleftReport⟩ := hleft.settled hleftPlan hleftOpen
  obtain ⟨sright, hrightReport⟩ := hright.settled hrightPlan hrightOpen
  refine ⟨?_, sleft.kept, sleft.given, ?_⟩
  · intro hservice
    have hafter := sleft.eq_of_service_eq sright htimeout hservice
    exact ⟨hafter, by rw [hleftReport, hrightReport, hafter], hleftReport⟩
  · intro n row entry hrow hentry hsame
    exact sleft.status_eq sright htimeout hrow hentry hsame

/-- The first call is refused after two seconds, the second takes too long, the third ends at
once. -/
def mixedPlan (slots : Nat) : Plan where
  policy := ⟨slots, .ofSeconds 3⟩
  service := fun number _ =>
    if number = 0 then ⟨some (.ofSeconds 2), .rejected (some 400) " "⟩
    else if number = 1 then ⟨some (.ofSeconds 4), .created⟩
    else .atOnce .created
  cancellation := .never
  watched := false

theorem mixedPlan_neverCrashes (slots : Nat) : (mixedPlan slots).NeverCrashes := by
  intro number record
  simp only [Plan.resolution, mixedPlan]
  split
  · decide
  · split <;> decide

/-- With one slot the calls end in the order of the rows, with three in the opposite order; the
results are the same. -/
theorem result_independent_of_slots :
    (mixedPlan 1).NeverCrashes ∧ (mixedPlan 3).NeverCrashes ∧
      (small.run (mixedPlan 1)).2.cancelled = false ∧
      (small.run (mixedPlan 3)).2.cancelled = false ∧
      ((small.run (mixedPlan 1)).2.ends,
        (small.run (mixedPlan 3)).2.ends) = ([0, 3], [3, 0]) ∧
      (small.run (mixedPlan 1)).1 = (small.run (mixedPlan 3)).1 ∧
      (small.run (mixedPlan 1)).2.report = (small.run (mixedPlan 3)).2.report := by
  have hone : (small.run (mixedPlan 1)).2.cancelled = false := by decide +kernel
  have hthree : (small.run (mixedPlan 3)).2.cancelled = false := by decide +kernel
  have h := result_independent_of_schedule (mixedPlan_neverCrashes 1) (mixedPlan_neverCrashes 3)
    rfl (small.mayRun_run _) (small.mayRun_run _) hone hthree
  obtain ⟨hafter, hreport, _⟩ := h.1 rfl
  exact ⟨mixedPlan_neverCrashes 1, mixedPlan_neverCrashes 3, hone, hthree, by decide +kernel,
    hafter, hreport⟩

end Batch
end Enrolment

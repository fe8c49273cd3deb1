import Enrolment.Proofs.Run.Independence
import Enrolment.Proofs.Run.Log
import Enrolment.Proofs.Run.Once

/-!
A run that was cancelled can be taken up again. A run takes a stretch of the open rows off the
front, in file order, and answers all of it; what is left is what it found open behind. So runs add
up: any number of them, one after the other, do what one run does that nobody cancels, as long as
the service answers each record in one way.
-/

namespace Enrolment

/-- A service that answers each record in its own way, whichever call of whichever run it is, and
does not take a run down within the timeout. -/
structure SteadyService where
  conduct : Record → Conduct
  timeout : Duration
  calm : ∀ record, ((conduct record).resolve timeout).2 ≠ .ended .crashed

namespace SteadyService

/-- A run with this service, cancelled in whatever way. -/
def plan (service : SteadyService) (concurrency : Nat) (cancellation : Cancellation)
    (watched : Bool) : Plan where
  policy := ⟨concurrency, service.timeout⟩
  service := fun _ => service.conduct
  cancellation
  watched

theorem neverCrashes_plan {service : SteadyService} {concurrency : Nat}
    {cancellation : Cancellation} {watched : Bool} :
    (service.plan concurrency cancellation watched).NeverCrashes :=
  fun _ record => service.calm record

/-- What the record's row becomes. -/
def outcome (service : SteadyService) (record : Record) : Status :=
  (((service.conduct record).resolve service.timeout).2.status? service.timeout).getD .pending

end SteadyService

namespace Run

/-- What a call asks for: how many calls there are beside it is left out. -/
def Call.subject (call : Call) : Nat × Record :=
  (call.row, call.record)

/-- What is open at any moment of a run is what was open before and has not been claimed. -/
theorem Kept.eligible_split {batch : Batch} {plan : Plan} {o : Outline} (k : Kept batch plan o) :
    batch.eligible = o.claims ++ Batch.eligible { batch with ledger := o.ledger } := by
  obtain ⟨rest, hrest⟩ := k.eligible_eq
  have hnodup : (o.claims ++ rest).Nodup := by
    rw [← hrest]
    exact batch.nodup_eligible
  have hopen : ∀ row, Batch.isOpen { batch with ledger := o.ledger } row =
      (decide (row ∉ o.claims) && batch.isOpen row) := by
    intro row
    by_cases hrow : row ∈ o.claims
    · have hclosed : Batch.isOpen { batch with ledger := o.ledger } row = false := by
        rw [Bool.eq_false_iff, ne_eq, Batch.isOpen_iff]
        exact k.closed hrow
      simp [hclosed, hrow]
    · rw [Batch.isOpen, k.untouched row hrow, Batch.isOpen]
      simp [hrow]
  have hleft : Batch.eligible { batch with ledger := o.ledger } =
      batch.eligible.filter (· ∉ o.claims) := by
    rw [Batch.eligible, Batch.eligible, List.filter_filter]
    exact List.filter_congr fun row _ => hopen row
  have hclaims : o.claims.filter (· ∉ o.claims) = [] := by simp [List.filter_eq_nil_iff]
  have hothers : rest.filter (· ∉ o.claims) = rest := by
    rw [List.filter_eq_self]
    intro row hrow
    exact decide_eq_true fun hclaimed => (List.nodup_append.1 hnodup).2.2 row hclaimed row hrow rfl
  rw [hleft, hrest, List.filter_append, hclaims, List.nil_append, hothers]

end Run

namespace Batch
open Run

/-- How far the submission of a batch has come with the given calls: they are for the first of the
rows that were open and the others still are open; the rows called for are answered, all else is as
it was. -/
structure Reached (service : SteadyService) (batch current : Batch) (calls : List Call) :
    Prop where
  entries_eq : current.entries = batch.entries
  eligible_eq : batch.eligible = calls.map Call.row ++ current.eligible
  records : ∀ call ∈ calls, ∃ entry, batch.entries[call.row]? = some entry ∧
    call.record = entry.record
  answered : ∀ call ∈ calls, current.ledger.get? call.row = some (service.outcome call.record)
  kept : ∀ row, row ∉ calls.map Call.row → current.ledger.get? row = batch.ledger.get? row

section
variable {service : SteadyService} {batch middle current after : Batch} {calls back : List Call}
variable {concurrency : Nat} {cancellation : Cancellation} {watched : Bool} {account : Account}

theorem Reached.refl (service : SteadyService) (batch : Batch) : Reached service batch batch [] :=
  ⟨rfl, rfl, by simp, by simp, fun _ _ => rfl⟩

theorem Reached.trans (hfront : Reached service batch middle calls)
    (hback : Reached service middle current back) :
    Reached service batch current (calls ++ back) where
  entries_eq := hback.entries_eq.trans hfront.entries_eq
  eligible_eq := by
    rw [hfront.eligible_eq, hback.eligible_eq, List.map_append, List.append_assoc]
  records := by
    intro call hcall
    rcases List.mem_append.1 hcall with hcall | hcall
    · exact hfront.records call hcall
    · rw [← hfront.entries_eq]
      exact hback.records call hcall
  answered := by
    intro call hcall
    rcases List.mem_append.1 hcall with hcall | hcall
    · -- A row called for is not open any more, so it is not called for again.
      have hnodup := batch.nodup_eligible
      rw [hfront.eligible_eq, hback.eligible_eq] at hnodup
      have hrow : call.row ∉ back.map Call.row := by
        intro hagain
        exact (List.nodup_append.1 hnodup).2.2 _ (List.mem_map_of_mem hcall) _
          (List.mem_append_left _ hagain) rfl
      rw [hback.kept _ hrow]
      exact hfront.answered call hcall
    · exact hback.answered call hcall
  kept := by
    intro row hrow
    rw [List.map_append, List.mem_append, not_or] at hrow
    rw [hback.kept row hrow.2, hfront.kept row hrow.1]

theorem MayRun.reached
    (h : batch.MayRun (service.plan concurrency cancellation watched) after account) :
    Reached service batch after account.calls := by
  obtain ⟨claims, m, hhistory, hover, hleft⟩ := h
  obtain ⟨rfl, rfl⟩ := Prod.mk.inj hleft
  have f := finished_of_over SteadyService.neverCrashes_plan hhistory hover
  refine ⟨rfl, ?_, f.kept.records, ?_, ?_⟩
  · change batch.eligible = m.progress.calls.map Call.row ++ _
    rw [← f.claims_eq]
    exact f.kept.eligible_split
  · intro call hcall
    obtain ⟨n, hn⟩ := List.getElem?_of_mem hcall
    exact f.status_of_call hn
  · intro row hrow
    apply f.kept.untouched row
    rw [f.claims_eq]
    exact hrow

/-- A run that nobody cancels leaves no row open. -/
theorem MayRun.eligible_eq_nil
    (h : batch.MayRun (service.plan concurrency cancellation watched) after account)
    (hopen : account.cancelled = false) : after.eligible = [] := by
  obtain ⟨claims, m, hhistory, hover, hleft⟩ := h
  obtain ⟨rfl, rfl⟩ := Prod.mk.inj hleft
  have f := finished_of_over SteadyService.neverCrashes_plan hhistory hover
  have hclaims := f.all_of_open (Bool.or_eq_false_iff.1 hopen).1
  have hsplit := f.kept.eligible_split
  rw [hclaims] at hsplit
  exact List.append_right_eq_self.1 hsplit.symm

/-- The same rows have the same records. -/
theorem subjects_eq {entries : List Entry} {left right : List Call}
    (hleft : ∀ call ∈ left, ∃ entry, entries[call.row]? = some entry ∧
      call.record = entry.record)
    (hright : ∀ call ∈ right, ∃ entry, entries[call.row]? = some entry ∧
      call.record = entry.record)
    (hrows : left.map Call.row = right.map Call.row) :
    left.map Call.subject = right.map Call.subject := by
  induction left generalizing right with
  | nil =>
      cases right with
      | nil => rfl
      | cons other right => cases hrows
  | cons call left ih =>
      cases right with
      | nil => cases hrows
      | cons other right =>
          obtain ⟨hrow, hrest⟩ := List.cons.inj hrows
          obtain ⟨entry, hentry, hrecord⟩ := hleft call (by simp)
          obtain ⟨same, hsame, hother⟩ := hright other (by simp)
          rw [hrow] at hentry
          obtain rfl : entry = same := Option.some.inj (hentry.symm.trans hsame)
          have hsubject : call.subject = other.subject := by
            rw [Call.subject, Call.subject, hrow, hrecord, hother]
          rw [List.map_cons, List.map_cons, hsubject,
            ih (fun call hcall => hleft call (List.mem_cons_of_mem _ hcall))
              (fun call hcall => hright call (List.mem_cons_of_mem _ hcall)) hrest]

/-- There is one way to submit all that is open. -/
theorem Reached.unique {left right : Batch} {leftCalls rightCalls : List Call}
    (hleft : Reached service batch left leftCalls) (hright : Reached service batch right rightCalls)
    (hleftNone : left.eligible = []) (hrightNone : right.eligible = []) :
    left = right ∧ leftCalls.map Call.subject = rightCalls.map Call.subject := by
  have hleftRows := hleft.eligible_eq
  have hrightRows := hright.eligible_eq
  rw [hleftNone, List.append_nil] at hleftRows
  rw [hrightNone, List.append_nil] at hrightRows
  have hsubjects :=
    subjects_eq hleft.records hright.records (hleftRows.symm.trans hrightRows)
  refine ⟨Batch.ext_status? (hleft.entries_eq.trans hright.entries_eq.symm) ?_, hsubjects⟩
  intro row
  by_cases hrow : row ∈ batch.eligible
  · rw [hleftRows] at hrow
    obtain ⟨call, hcall, rfl⟩ := List.mem_map.1 hrow
    have hsubject : call.subject ∈ rightCalls.map Call.subject := by
      rw [← hsubjects]
      exact List.mem_map_of_mem hcall
    obtain ⟨other, hother, hsame⟩ := List.mem_map.1 hsubject
    obtain ⟨hotherRow, hotherRecord⟩ := Prod.mk.inj hsame
    rw [Batch.status?, Batch.status?, hleft.answered call hcall, ← hotherRow,
      hright.answered other hother, hotherRecord]
  · rw [Batch.status?, Batch.status?, hleft.kept row (by rwa [← hleftRows]),
      hright.kept row (by rwa [← hrightRows])]

/-- Where nothing is open, a run does nothing. -/
theorem MayRun.idle {plan : Plan} (h : batch.MayRun plan after account)
    (hnone : batch.eligible = []) :
    account.calls = [] ∧ account.updates = [] ∧ after = batch := by
  obtain ⟨claims, m, hhistory, _, hleft⟩ := h
  obtain ⟨rfl, rfl⟩ := Prod.mk.inj hleft
  have hclaims : claims = [] := by
    obtain ⟨rest, hrest⟩ := (kept_of_history hhistory).eligible_eq
    rw [hnone, claims_of_history hhistory] at hrest
    exact (List.append_eq_nil_iff.1 hrest.symm).1
  subst hclaims
  obtain ⟨hcalls, hupdates, hledger⟩ := idle_of_history hhistory
  refine ⟨hcalls, hupdates, ?_⟩
  rw [hledger]

end

/-- What any number of runs with one service may make of a batch, each with its own number of slots
and cancelled in its own way. -/
inductive MayResume (service : SteadyService) (batch : Batch) : List Account → Batch → Prop where
  | fresh : MayResume service batch [] batch
  | run {concurrency : Nat} {cancellation : Cancellation} {watched : Bool}
      {accounts : List Account} {account : Account} {current after : Batch} :
      MayResume service batch accounts current →
      current.MayRun (service.plan concurrency cancellation watched) after account →
      MayResume service batch (accounts ++ [account]) after

theorem MayResume.reached {service : SteadyService} {batch current : Batch}
    {accounts : List Account} (h : MayResume service batch accounts current) :
    Reached service batch current (accounts.flatMap Account.calls) := by
  induction h with
  | fresh => exact .refl service batch
  | run _ hrun ih =>
      rw [List.flatMap_append, List.flatMap_singleton]
      exact ih.trans hrun.reached

/-- Any number of runs with one service, cancelled at any moments, and then one that nobody cancels.
They leave the batch and the report that a single run leaves which nobody cancels, and their calls
in a row are the calls of that run, for the same rows with the same records in the same order. Any
further run does nothing. -/
theorem resumed_runs_equal_one_run {service : SteadyService}
    {batch current after single : Batch} {accounts : List Account} {account whole : Account}
    {concurrency concurrency' : Nat} {cancellation cancellation' : Cancellation}
    {watched watched' : Bool} (hruns : batch.MayResume service accounts current)
    (hlast : current.MayRun (service.plan concurrency cancellation watched) after account)
    (hopen : account.cancelled = false)
    (hsingle : batch.MayRun (service.plan concurrency' cancellation' watched') single whole)
    (hwhole : whole.cancelled = false) :
    after = single ∧ account.report = whole.report ∧ whole.report = some single.report ∧
      ((accounts ++ [account]).flatMap Account.calls).map Call.subject =
        whole.calls.map Call.subject ∧
      ∀ plan further next, after.MayRun plan further next →
        next.calls = [] ∧ next.updates = [] ∧ further = after := by
  have hnone := hlast.eligible_eq_nil hopen
  obtain ⟨rfl, hcalls⟩ :=
    (hruns.run hlast).reached.unique hsingle.reached hnone (hsingle.eligible_eq_nil hwhole)
  have hreport := (hlast.settled SteadyService.neverCrashes_plan hopen).2
  have hwholeReport := (hsingle.settled SteadyService.neverCrashes_plan hwhole).2
  exact ⟨rfl, hreport.trans hwholeReport.symm, hwholeReport, hcalls,
    fun _ _ _ hfurther => hfurther.idle hnone⟩

/-- It creates a user in two seconds, and never answers for one of them. -/
def slowService : SteadyService where
  conduct := fun record =>
    if record.identifier = "bob@example.com" then ⟨none, .created⟩
    else ⟨some (.ofSeconds 2), .created⟩
  timeout := .ofSeconds 30
  calm := by
    intro record
    split <;> decide

/-- A run of the small batch with one slot, cancelled by its first call. -/
def cutShort : Batch × Account :=
  small.run (slowService.plan 1 { onCall := some 1 } true)

/-- A run of what is left, with three slots. -/
def takenUp : Batch × Account :=
  cutShort.1.run (slowService.plan 3 .never false)

/-- A single run of the small batch, with two slots. -/
def atOneGo : Batch × Account :=
  small.run (slowService.plan 2 .never true)

/-- The run that is cut short calls for one row and the one that takes it up for two; together they
are the single run, and a run after them calls for none. -/
theorem resumed_runs_equal_one_run_when_cut_short :
    (cutShort.2.cancelled, takenUp.2.cancelled, atOneGo.2.cancelled) = (true, false, false) ∧
      (cutShort.2.calls.map Call.row, takenUp.2.calls.map Call.row) = ([0], [2, 3]) ∧
      takenUp.1 = atOneGo.1 ∧ takenUp.2.report = atOneGo.2.report ∧
      cutShort.2.calls.map Call.subject ++ takenUp.2.calls.map Call.subject =
        atOneGo.2.calls.map Call.subject ∧
      (takenUp.1.run (slowService.plan 1 .never true)).2.calls = [] := by
  have hopen : takenUp.2.cancelled = false := by decide +kernel
  have hwhole : atOneGo.2.cancelled = false := by decide +kernel
  have hcut : small.MayResume slowService [cutShort.2] cutShort.1 :=
    .run .fresh (small.mayRun_run _)
  have htaken : cutShort.1.MayRun (slowService.plan 3 .never false) takenUp.1 takenUp.2 :=
    cutShort.1.mayRun_run _
  have hone : small.MayRun (slowService.plan 2 .never true) atOneGo.1 atOneGo.2 :=
    small.mayRun_run _
  obtain ⟨hafter, hreport, _, hcalls, hfurther⟩ :=
    resumed_runs_equal_one_run hcut htaken hopen hone hwhole
  exact ⟨by decide +kernel, by decide +kernel, hafter, hreport, by simpa using hcalls,
    (hfurther _ _ _ (takenUp.1.mayRun_run _)).1⟩

end Batch
end Enrolment

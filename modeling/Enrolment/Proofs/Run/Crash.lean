import Enrolment.Proofs.Run.Accounting
import Enrolment.Proofs.Run.Resume
import Enrolment.Proofs.Run.Room

/-!
What a run leaves that a call took down. The crash itself changes no status: what was final stays
so, and the rows that the run had claimed and not finished stay pending. No later run takes them up
again, so the batch never settles; but the rows that the run had not come to are as they were, and
the next run that is left alone submits all of them.
-/

namespace Enrolment
namespace Run

/-- The rows that a run has claimed and not finished: their calls have not started, or what they
give has not been entered. -/
def Progress.unfinished (p : Progress) : List Nat :=
  p.queue ++ p.calling

section
variable {batch : Batch} {plan : Plan} {o after : Outline} {claims : List Nat} {m final : Moment}

theorem mem_unfinished_iff {row : Nat} : row ∈ m.progress.unfinished ↔ row ∈ m.outline.held := by
  rw [Progress.unfinished, held_eq, Multiset.mem_add, Multiset.mem_coe, Multiset.mem_coe,
    List.mem_append]

theorem length_unfinished : m.progress.unfinished.length = Multiset.card m.outline.held := by
  rw [Progress.unfinished, held_eq, Multiset.card_add, Multiset.coe_card, Multiset.coe_card,
    List.length_append]

theorem Kept.nodup_unfinished (k : Kept batch plan m.outline) : m.progress.unfinished.Nodup := by
  have hnodup := k.nodup_held
  rwa [held_eq, Multiset.coe_add, Multiset.coe_nodup] at hnodup

/-- As long as no call has taken the run down, the rows it has not finished are those it has claimed
that are still pending. -/
theorem mem_unfinished_iff_pending (h : History batch.entries plan (first plan batch) claims m)
    (hopen : m.progress.crashed = false) {row : Nat} :
    row ∈ m.progress.unfinished ↔ row ∈ claims ∧ m.ledger.get? row = some .pending := by
  have k := kept_of_history h
  rw [mem_unfinished_iff, ← claims_of_history h]
  constructor
  · intro hheld
    exact ⟨k.claimed row hheld, k.pending row hheld⟩
  · intro hpending
    exact (roomy_of_history h).covered hopen row (mem_pending_iff.2 hpending)

/-- A claimed row that is finished has the final status that its own call gave. -/
theorem finished_of_claim (h : History batch.entries plan (first plan batch) claims m)
    (hopen : m.progress.crashed = false) {row : Nat} (hclaim : row ∈ claims)
    (hrow : row ∉ m.progress.unfinished) :
    ∃ n call, m.progress.calls[n]? = some call ∧ call.row = row ∧
      m.ledger.get? row = some (plan.outcome n call.record) ∧
      (plan.outcome n call.record).isTerminal = true := by
  obtain ⟨n, call, hn, rfl, hstatus⟩ := (kept_of_history h).exists_call_of_claim
    (by rwa [claims_of_history h]) (mem_unfinished_iff.not.1 hrow)
  refine ⟨n, call, hn, rfl, hstatus, ?_⟩
  cases hgiven : (plan.resolution n call.record).status? plan.policy.timeout with
  | some status =>
      rw [Plan.outcome, hgiven]
      exact isTerminal_of_status? hgiven
  | none =>
      -- A call that gives nothing would have left its row pending, hence unfinished.
      rw [Plan.outcome, hgiven] at hstatus
      exact absurd ((mem_unfinished_iff_pending h hopen).2 ⟨hclaim, hstatus⟩) hrow

/-- Only a crash takes a run down, and it changes nothing else but that its call is over. -/
theorem Outline.Step.eq_of_crashed {entries : List Entry} (h : o.Step entries plan after)
    (hopen : o.crashed = false) (hcrashed : after.crashed = true) :
    ∃ row others, o.started = (row, .ended .crashed) ::ₘ others ∧
      after = { o with started := others, crashed := true } := by
  cases h with
  | @crash row resolution others hstarted hnone =>
      rw [status?_eq_none_iff.1 hnone] at hstarted
      exact ⟨row, others, hstarted, rfl⟩
  | claim _ _ _ _ | skip _ _ _ | stop _ | start _ _ _ | lose _ _ | settle _ _ _ | discard _ _ _
  | signal _ => exact absurd hcrashed (Bool.eq_false_iff.1 hopen)

/-- A run that a call took down, at the last moment before: the call under way that crashes, and
that the crash left all calls and statuses as they were. -/
theorem exists_moment_of_crashed
    (h : History batch.entries plan (first plan batch) claims final)
    (hcrashed : final.progress.crashed = true) :
    ∃ m, History batch.entries plan (first plan batch) claims m ∧
      Move batch.entries plan m final ∧ final.ledger = m.ledger ∧
      final.progress.calls = m.progress.calls ∧
      ∃ n call, m.progress.calls[n]? = some call ∧ call.row ∈ m.progress.unfinished ∧
        plan.resolution n call.record = .ended .crashed := by
  cases h with
  | start => cases hcrashed
  | @move _ m _ hearlier hmove =>
      obtain ⟨row, others, hstarted, hafter⟩ :=
        (outline_step hmove).eq_of_crashed hmove.not_crashed hcrashed
      have hledger : final.ledger = m.ledger := congrArg Outline.ledger hafter
      have hcalls : final.progress.calls = m.progress.calls := congrArg Outline.calls hafter
      obtain ⟨n, call, hcall, hrow, hresolution⟩ :=
        (kept_of_history hearlier).answers row (.ended .crashed) (by rw [hstarted]; simp)
      have hheld : call.row ∈ m.outline.held := by
        rw [hrow, Kept.held_of_started hstarted]
        exact Multiset.mem_cons_self _ _
      refine ⟨m, ?_, hmove, hledger, hcalls, n, call, hcall, mem_unfinished_iff.2 hheld,
        hresolution.symm⟩
      rw [hledger, turned_self, List.append_nil]
      exact hearlier

/-- A run that is over and that no call took down has made no call that crashes. -/
theorem not_crashed_of_call (h : History batch.entries plan (first plan batch) claims m)
    (hover : Over batch.entries plan m) (hopen : m.progress.crashed = false) {n : Nat} {call : Call}
    (hcall : m.progress.calls[n]? = some call) :
    plan.resolution n call.record ≠ .ended .crashed := by
  intro hcrash
  obtain ⟨_, hqueue, hstarted⟩ := outline_of_over hover hopen
  have hheld : m.outline.held = 0 := by
    rw [Outline.held, hqueue, hstarted]
    rfl
  have hrow : call.row ∉ m.progress.unfinished := by
    rw [mem_unfinished_iff, hheld]
    exact Multiset.notMem_zero _
  have hclaim : call.row ∈ claims := by
    rw [← claims_of_history h]
    exact mem_claims_of_call (List.mem_of_getElem? hcall)
  obtain ⟨i, own, hown, hsame, _, hterminal⟩ := finished_of_claim h hopen hclaim hrow
  obtain rfl := (kept_of_history h).call_unique hown hcall hsame
  obtain rfl : own = call := Option.some.inj (hown.symm.trans hcall)
  rw [Plan.outcome, hcrash] at hterminal
  cases hterminal

end

end Run

namespace Batch
open Run

section
variable {batch after later : Batch} {plan : Plan} {account : Account} {accounts : List Account}

/-- A run gives no report exactly if one of its calls crashes. -/
theorem MayRun.report_eq_none_iff (h : batch.MayRun plan after account) :
    account.report = none ↔ ∃ n call, account.calls[n]? = some call ∧
      plan.resolution n call.record = .ended .crashed := by
  obtain ⟨claims, final, hhistory, hover, hleft⟩ := h
  obtain ⟨rfl, rfl⟩ := Prod.mk.inj hleft
  by_cases hcrashed : final.progress.crashed = true
  · obtain ⟨m, _, _, _, hcalls, n, call, hcall, _, hresolution⟩ :=
      exists_moment_of_crashed hhistory hcrashed
    exact iff_of_true (if_pos hcrashed) ⟨n, call, hcalls ▸ hcall, hresolution⟩
  · apply iff_of_false
    · simp [hcrashed]
    · rintro ⟨n, call, hcall, hresolution⟩
      exact not_crashed_of_call hhistory hover (Bool.eq_false_iff.2 hcrashed) hcall hresolution

theorem MayBecome.entries_eq (h : batch.MayBecome accounts later) :
    later.entries = batch.entries := by
  induction h with
  | fresh => rfl
  | run _ hrun ih =>
      obtain ⟨_, _, _, _, hleft⟩ := hrun
      rw [← (Prod.mk.inj hleft).1]
      exact ih

/-- A run does not call for a row that is pending before, and leaves it pending. -/
theorem MayRun.pending_kept (h : batch.MayRun plan after account) {row : Nat}
    (hrow : batch.status? row = some .pending) :
    after.status? row = some .pending ∧ ∀ call ∈ account.calls, call.row ≠ row := by
  obtain ⟨claims, m, hhistory, _, hleft⟩ := h
  obtain ⟨rfl, rfl⟩ := Prod.mk.inj hleft
  have k := kept_of_history hhistory
  have hclaim : row ∉ m.outline.claims := by
    intro hclaim
    have hfree : batch.status? row = some .notSubmitted := k.open_of_claim hclaim
    rw [hrow] at hfree
    cases hfree
  refine ⟨(k.untouched row hclaim).trans hrow, ?_⟩
  rintro call hcall rfl
  exact hclaim (mem_claims_of_call hcall)

/-- No run after it does either. -/
theorem MayBecome.pending_kept (h : batch.MayBecome accounts later) {row : Nat}
    (hrow : batch.status? row = some .pending) :
    later.status? row = some .pending ∧
      ∀ call ∈ accounts.flatMap Account.calls, call.row ≠ row := by
  induction h with
  | fresh => exact ⟨hrow, by simp⟩
  | run _ hrun ih =>
      obtain ⟨hpending, hcalls⟩ := hrun.pending_kept ih.1
      refine ⟨hpending, ?_⟩
      intro call hcall
      rw [List.flatMap_append, List.flatMap_singleton, List.mem_append] at hcall
      exact hcall.elim (ih.2 call) (hcalls call)

theorem not_settled_of_pending {row : Nat} {entry : Entry}
    (hentry : batch.entries[row]? = some entry) (hvalid : entry.verdict = .valid)
    (hrow : batch.status? row = some .pending) : batch.report.isSettled = false := by
  rw [Bool.eq_false_iff, ne_eq, isSettled_iff]
  intro hsettled
  have hshown : ⟨row, entry.record, entry.verdict, .pending⟩ ∈ batch.rows :=
    mem_rows_iff.2 ⟨entry, hentry, hrow, rfl, rfl⟩
  cases hsettled _ hshown hvalid

/-- A run that is left alone calls for all rows that were open, and each of them ends. -/
theorem MayRun.rows_of_open (h : batch.MayRun plan after account) (hplan : plan.NeverCrashes)
    (hopen : account.cancelled = false) :
    account.calls.map Call.row = batch.eligible ∧
      ∀ row ∈ batch.eligible, ∃ status, after.status? row = some status ∧
        status.isTerminal = true := by
  obtain ⟨claims, m, hhistory, hover, hleft⟩ := h
  obtain ⟨rfl, rfl⟩ := Prod.mk.inj hleft
  have f := finished_of_over hplan hhistory hover
  have hclaims := f.all_of_open (Bool.or_eq_false_iff.1 hopen).1
  refine ⟨f.claims_eq.symm.trans hclaims, ?_⟩
  intro row hrow
  rw [← hclaims] at hrow
  exact f.terminal hplan hrow

end

/-- How a batch stands after a run that a call took down. The run had made the given claims by the
moment of the crash. -/
structure Wreck (batch : Batch) (plan : Plan) (claims : List Nat) (m : Moment) (after : Batch) :
    Prop where
  history : History batch.entries plan (first plan batch) claims m
  /-- The crash itself changes no status. -/
  frozen : after = ⟨batch.entries, m.ledger⟩
  culprit : ∃ n call, m.progress.calls[n]? = some call ∧ call.row ∈ m.progress.unfinished ∧
    plan.resolution n call.record = .ended .crashed
  pending : ∀ row, row ∈ m.progress.unfinished ↔
    row ∈ claims ∧ after.status? row = some .pending
  nodup : m.progress.unfinished.Nodup
  nonempty : 1 ≤ m.progress.unfinished.length
  bounded : m.progress.unfinished.length ≤ max 1 plan.policy.concurrency
  finished : ∀ row ∈ claims, row ∉ m.progress.unfinished → ∃ n call,
    m.progress.calls[n]? = some call ∧ call.row = row ∧
      after.status? row = some (plan.outcome n call.record) ∧
      (plan.outcome n call.record).isTerminal = true
  final : ∀ row status, batch.status? row = some status → status.isTerminal = true →
    after.status? row = some status
  untouched : ∀ row, row ∉ claims → after.status? row = batch.status? row
  open_eq : batch.eligible = claims ++ after.eligible

theorem wreck_of_crashed {plan : Plan} {batch : Batch} {claims : List Nat} {final : Moment}
    (h : History batch.entries plan (first plan batch) claims final)
    (hcrashed : final.progress.crashed = true) :
    ∃ m, Move batch.entries plan m final ∧
      batch.Wreck plan claims m ⟨batch.entries, final.ledger⟩ := by
  obtain ⟨m, hnow, hmove, hledger, _, n, call, hcall, hculprit, hresolution⟩ :=
    exists_moment_of_crashed h hcrashed
  have k := kept_of_history hnow
  have hclaims := claims_of_history hnow
  refine ⟨m, hmove, ?_⟩
  rw [hledger]
  exact
    { history := hnow
      frozen := rfl
      culprit := ⟨n, call, hcall, hculprit, hresolution⟩
      pending := fun _ => mem_unfinished_iff_pending hnow hmove.not_crashed
      nodup := k.nodup_unfinished
      nonempty := List.length_pos_of_mem hculprit
      bounded := length_unfinished.trans_le (roomy_of_history hnow).held
      finished := fun _ => finished_of_claim hnow hmove.not_crashed
      final := fun _ _ => hnow.leadsTo.get?_of_terminal
      untouched := fun row hrow => k.untouched row (by rwa [hclaims])
      open_eq := by rw [← hclaims]; exact k.eligible_split }

/-- The rows that a crash left pending are passed by in every later run, and keep the batch from
settling. -/
theorem Wreck.stuck {plan : Plan} {batch after later : Batch} {claims : List Nat} {m : Moment}
    {accounts : List Account} (w : batch.Wreck plan claims m after)
    (h : after.MayBecome accounts later) :
    (∀ row ∈ m.progress.unfinished, later.status? row = some .pending ∧
      ∀ call ∈ accounts.flatMap Account.calls, call.row ≠ row) ∧
    later.report.isSettled = false := by
  have hstuck : ∀ row ∈ m.progress.unfinished, later.status? row = some .pending ∧
      ∀ call ∈ accounts.flatMap Account.calls, call.row ≠ row :=
    fun row hrow => h.pending_kept ((w.pending row).1 hrow).2
  refine ⟨hstuck, ?_⟩
  obtain ⟨_, call, _, hculprit, _⟩ := w.culprit
  have hclaim : call.row ∈ m.outline.claims := by
    rw [claims_of_history w.history]
    exact ((w.pending _).1 hculprit).1
  obtain ⟨entry, hentry, hvalid⟩ := (kept_of_history w.history).entry_of_claim hclaim
  have hentries : later.entries = batch.entries := by
    rw [h.entries_eq, w.frozen]
  rw [← hentries] at hentry
  exact not_settled_of_pending hentry hvalid (hstuck _ hculprit).1

/-- A run of a batch, in whatever state it found it, gives no report exactly if one of its calls
crashes. What it leaves then is a wreck: a claimed row that was finished keeps what its call gave,
those that were not are pending, at least that of the call and no more than there are slots, and
every other row is as the run found it. Whatever runs follow, no call is made for the rows left
pending, which stay so, and the batch does not settle; a run that is left alone calls for just the
valid rows that nobody has submitted, and all of these end. -/
theorem crash_strands_unfinished_rows {plan : Plan} {batch after : Batch} {account : Account}
    (hrun : batch.MayRun plan after account) :
    (account.report = none ↔ ∃ n call, account.calls[n]? = some call ∧
      plan.resolution n call.record = .ended .crashed) ∧
    (account.report = none → ∃ claims m, batch.Wreck plan claims m after ∧
      (∃ final, Move batch.entries plan m final ∧
        batch.conclude plan final = (after, account)) ∧
      ∀ accounts later, after.MayBecome accounts later →
        (∀ row ∈ m.progress.unfinished, later.status? row = some .pending ∧
          ∀ call ∈ accounts.flatMap Account.calls, call.row ≠ row) ∧
        later.report.isSettled = false ∧
        ∀ calm left further, calm.NeverCrashes → later.MayRun calm left further →
          further.cancelled = false →
          further.calls.map Call.row =
            later.validIndices.filter (fun row => later.status? row = some .notSubmitted) ∧
          ∀ call ∈ further.calls, ∃ status, left.status? call.row = some status ∧
            status.isTerminal = true) := by
  refine ⟨hrun.report_eq_none_iff, fun hreport => ?_⟩
  obtain ⟨claims, final, hhistory, hover, hleft⟩ := hrun
  obtain ⟨rfl, rfl⟩ := Prod.mk.inj hleft
  have hcrashed : final.progress.crashed = true := by
    by_contra hopen
    simp [hopen] at hreport
  obtain ⟨m, hmove, w⟩ := wreck_of_crashed hhistory hcrashed
  refine ⟨claims, m, w, ⟨final, hmove, rfl⟩, ?_⟩
  intro accounts later hlater
  obtain ⟨hstuck, hsettled⟩ := w.stuck hlater
  refine ⟨hstuck, hsettled, ?_⟩
  intro calm left further hcalm hfurther hfree
  obtain ⟨hrows, hends⟩ := hfurther.rows_of_open hcalm hfree
  refine ⟨hrows, fun call hcall => hends _ ?_⟩
  rw [← hrows]
  exact List.mem_map_of_mem hcall

/-- The crash finds one row with a call under way beside its own, and one that the run has not come
to. The next run calls for that one only. -/
theorem crash_strands_unfinished_rows_of_collapse :
    (small.run collapsingPlan).2.report = none ∧
      (small.run collapsingPlan).1.statuses =
        [.pending, .notSubmitted, .pending, .notSubmitted] ∧
      ∃ claims m, small.Wreck collapsingPlan claims m (small.run collapsingPlan).1 ∧
        m.progress.unfinished.length ≤ 2 ∧
        ((small.run collapsingPlan).1.run calmPlan).2.calls.map Call.row =
          (small.run collapsingPlan).1.validIndices.filter
            (fun row => (small.run collapsingPlan).1.status? row = some .notSubmitted) ∧
        ((small.run collapsingPlan).1.run calmPlan).2.calls.map Call.row = [3] ∧
        ((small.run collapsingPlan).1.run calmPlan).1.report.isSettled = false := by
  have hreport : (small.run collapsingPlan).2.report = none := by decide +kernel
  have hcalm : calmPlan.NeverCrashes := by
    intro number record h
    cases h
  obtain ⟨claims, m, w, _, hlater⟩ :=
    (crash_strands_unfinished_rows (small.mayRun_run collapsingPlan)).2 hreport
  have hnext := (small.run collapsingPlan).1.mayRun_run calmPlan
  have hrows := ((hlater _ _ .fresh).2.2 _ _ _ hcalm hnext (by decide +kernel)).1
  exact ⟨hreport, by decide +kernel, claims, m, w, w.bounded, hrows, by decide +kernel,
    (hlater _ _ (.run .fresh hnext)).2.1⟩

end Batch
end Enrolment

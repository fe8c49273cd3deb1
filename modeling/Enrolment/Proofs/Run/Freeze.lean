import Enrolment.Proofs.Run.Independence
import Enrolment.Proofs.Run.Log
import Enrolment.Proofs.Run.Room

/-!
A cancellation freezes the claims and loses none of them. From then on no row turns pending, but the
rows that are claimed get their calls and their results as if nothing had happened. So a call that
cancels is followed by no more calls than there were slots beside its own.
-/

namespace Enrolment
namespace Run

section
variable {entries : List Entry} {plan : Plan} {m final : Moment} {o after : Outline}
variable {batch : Batch} {claims before later : List Nat}

theorem turned_of_cancelled (h : o.Step entries plan after) (hcancelled : o.cancelled = true) :
    turned o.ledger after.ledger = [] := by
  cases h with
  | claim _ _ hopen _ =>
      rw [hcancelled] at hopen
      cases hopen
  | settle _ hstatus hledger => exact turned_of_settle hledger (isTerminal_of_status? hstatus)
  | skip _ _ _ | stop _ | start _ _ _ | lose _ _ | discard _ _ _ | crash _ _ | signal _ =>
      exact turned_self _

/-- No row turns pending once the run is cancelled. -/
theorem History.eq_nil_of_cancelled (h : History entries plan m later final)
    (hcancelled : m.progress.cancelled = true) :
    later = [] ∧ final.progress.cancelled = true := by
  induction h with
  | start => exact ⟨rfl, hcancelled⟩
  | move _ hmove ih =>
      obtain ⟨rfl, hstill⟩ := ih
      have hstep := outline_step hmove
      exact ⟨by rw [List.nil_append]; exact turned_of_cancelled hstep hstill,
        hstep.cancelled hstill⟩

theorem History.calls_prefix (h : History entries plan m later final) :
    m.progress.calls <+: final.progress.calls := by
  induction h with
  | start => exact List.prefix_refl _
  | @move _ mid next _ hmove ih =>
      rcases (outline_step hmove).calls_eq with hcalls | ⟨call, _, _, hcalls, _⟩
      · rwa [show next.progress.calls = mid.progress.calls from hcalls]
      · exact ih.trans ⟨[call], hcalls.symm⟩

/-- Each call of a run has a moment at which it starts. -/
theorem History.exists_start {start : Moment} {n : Nat}
    (h : History entries plan start claims final)
    (hfirst : start.progress.calls.length ≤ n) (hn : n < final.progress.calls.length) :
    ∃ front m next back, History entries plan start front m ∧ m.progress.calls.length = n ∧
      Move entries plan m next ∧ next.progress.calls.length = n + 1 ∧
      History entries plan next back final := by
  induction h with
  | start => exact absurd hn (Nat.not_lt.2 hfirst)
  | @move front m next hearlier hmove ih =>
      by_cases hm : n < m.progress.calls.length
      · obtain ⟨front, mid, after, back, hfront, hmid, hstart, hafter, hback⟩ := ih hm
        exact ⟨front, mid, after, _, hfront, hmid, hstart, hafter, hback.move hmove⟩
      · have hlength : next.progress.calls.length = m.progress.calls.length ∨
            next.progress.calls.length = m.progress.calls.length + 1 := by
          rcases (outline_step hmove).calls_eq with hcalls | ⟨call, _, _, hcalls, _⟩
          · exact .inl (congrArg List.length hcalls)
          · exact .inr ((congrArg List.length hcalls).trans List.length_append)
        exact ⟨front, m, next, [], hearlier, by omega, hmove, by omega, .start⟩

theorem calls_claim (plan : Plan) (m : Moment) (row : Nat) (rest : List Nat) :
    (claim plan m row rest).progress.calls = m.progress.calls := by
  rw [claim]
  split
  · simp only [publish_eq]
  · rfl

theorem calls_finish (plan : Plan) (m : Moment) (row : Nat) (resolution : Resolution)
    (rest : List Ready) : (finish plan m row resolution rest).progress.calls =
      m.progress.calls := by
  simp only [finish]
  split
  · rfl
  · split
    · simp only [publish_eq]
    · rfl

theorem cancelled_start (plan : Plan) (record : Record) (m : Moment) (row : Nat)
    (rest : List Ready) : (start plan record m row rest).progress.cancelled =
      (m.progress.cancelled || plan.cancellation.byCall (m.progress.calls.length + 1)) := by
  simp only [start]
  split <;> rfl

/-- A call that is to cancel the run has done so when it has started. -/
theorem Move.cancelled_of_byCall {next : Moment} (h : Move entries plan m next)
    (hcall : m.progress.calls.length < next.progress.calls.length)
    (hplan : plan.cancellation.byCall (m.progress.calls.length + 1) = true) :
    next.progress.cancelled = true := by
  have hproceed : proceed entries plan m = some next → next.progress.cancelled = true := by
    intro hstep
    rw [proceed] at hstep
    split at hstep
    · split at hstep
      · rw [← Option.some.inj hstep, cancelled_start, hplan, Bool.or_true]
      · rw [← Option.some.inj hstep] at hcall
        exact absurd hcall (Nat.lt_irrefl _)
    · rw [← Option.some.inj hstep, calls_finish] at hcall
      exact absurd hcall (Nat.lt_irrefl _)
    · split at hstep
      · cases hstep
      · rw [← Option.some.inj hstep] at hcall
        exact absurd hcall (Nat.lt_irrefl _)
  cases h with
  | cancel _ _ | answer _ _ => exact absurd hcall (Nat.lt_irrefl _)
  | own hstep =>
      rw [step] at hstep
      split at hstep
      · cases hstep
      · split at hstep
        · split at hstep
          · split at hstep
            · rw [← Option.some.inj hstep] at hcall
              exact absurd hcall (Nat.lt_irrefl _)
            · rw [← Option.some.inj hstep, calls_claim] at hcall
              exact absurd hcall (Nat.lt_irrefl _)
          · exact hproceed hstep
        · exact hproceed hstep

/-- What a run that is cancelled during a call still calls for has been claimed beside that call. -/
theorem length_calls_of_cancelled
    (hm : History batch.entries plan (first plan batch) before m)
    (hcancelled : m.progress.cancelled = true) (hcalling : 0 < m.progress.calling.length)
    (hfinal : History batch.entries plan m later final) :
    final.progress.calls.length + 1 ≤ m.progress.calls.length + plan.policy.slots := by
  obtain ⟨rfl, _⟩ := hfinal.eq_nil_of_cancelled hcancelled
  have hclaims : final.outline.claims = m.outline.claims := by
    rw [claims_of_history (hm.trans hfinal), List.append_nil, claims_of_history hm]
  have hlength := congrArg List.length hclaims
  simp only [Outline.claims, List.length_append, List.length_map] at hlength
  have hheld := (roomy_of_history hm).held
  rw [held_eq, Multiset.card_add, Multiset.coe_card, Multiset.coe_card] at hheld
  have hcalls : final.outline.calls = final.progress.calls := rfl
  have hqueue : m.outline.queue = m.progress.queue := rfl
  have hmcalls : m.outline.calls = m.progress.calls := rfl
  rw [hcalls, hqueue, hmcalls] at hlength
  omega

theorem length_calls_of_onCall {n : Nat} (hplan : plan.cancellation.onCall = some (n + 1))
    (h : History batch.entries plan (first plan batch) claims final) :
    final.progress.calls.length ≤ n + plan.policy.slots := by
  by_cases hn : n < final.progress.calls.length
  · obtain ⟨front, m, next, back, hm, hlength, hstart, hnext, hback⟩ :=
      h.exists_start (Nat.zero_le n) hn
    have hcancelled : next.progress.cancelled = true := by
      apply hstart.cancelled_of_byCall (by omega)
      rw [hlength, Cancellation.byCall, hplan]
      exact decide_eq_true rfl
    have hcalling : 0 < next.progress.calling.length := by
      rw [Progress.length_calling, ← card_started]
      rcases (outline_step hstart).calls_eq with hcalls | ⟨_, _, _, _, hstarted⟩
      · have hsame : next.progress.calls.length = m.progress.calls.length :=
          congrArg List.length hcalls
        omega
      · exact hstarted
    have hbound := length_calls_of_cancelled (hm.move hstart) hcancelled hcalling hback
    omega
  · omega

/-- Each row that was claimed gets its own call, and the status that this call gives. -/
theorem result_of_claim (hplan : plan.NeverCrashes)
    (h : History batch.entries plan (first plan batch) claims final)
    (hover : Over batch.entries plan final) {row : Nat} (hrow : row ∈ claims) :
    ∃ n call entry status, final.progress.calls[n]? = some call ∧ call.row = row ∧
      batch.entries[row]? = some entry ∧ call.record = entry.record ∧
      final.ledger.get? row = some status ∧ status.isTerminal = true ∧
      (plan.service n entry.record).Gives plan.policy.timeout status := by
  have f := finished_of_over hplan h hover
  rw [← claims_of_history h, f.claims_eq] at hrow
  obtain ⟨call, hcall, rfl⟩ := List.mem_map.1 hrow
  obtain ⟨n, hn⟩ := List.getElem?_of_mem hcall
  obtain ⟨entry, hentry, hrecord⟩ := f.kept.records call hcall
  refine ⟨n, call, entry, _, hn, rfl, hentry, hrecord, f.status_of_call hn,
    hplan.isTerminal_outcome n call.record, ?_⟩
  rw [hrecord]
  exact hplan.gives n entry.record

end

/-- A run whose calls never take it down, from any moment at which it is cancelled. No row turns
pending any more, and the rows that were not claimed by then stay as they were and as the run found
them. The run comes to its end; by then each claimed row has had its call, in the order of the
claims, and has the final status that this call gives. A run cancelled while a call is under way
calls for no more rows than have a slot beside it, in particular if it is the start of a call that
cancels. A run that is cancelled before it starts does nothing at all. -/
theorem cancellation_freezes_claims {plan : Plan} (hplan : plan.NeverCrashes) (batch : Batch) :
    (∀ before m later final, History batch.entries plan (first plan batch) before m →
      m.progress.cancelled = true → History batch.entries plan m later final →
      later = [] ∧
      (∀ row, row ∉ before → final.ledger.get? row = m.ledger.get? row ∧
        m.ledger.get? row = batch.ledger.get? row) ∧
      (0 < m.progress.calling.length → final.progress.calls.length ≤
        m.progress.calls.length + max 1 plan.policy.concurrency - 1) ∧
      (Over batch.entries plan final →
        m.progress.calls <+: final.progress.calls ∧
        final.progress.calls.map Call.row = before ∧
        ∀ row ∈ before, ∃ n call entry status,
          final.progress.calls[n]? = some call ∧ call.row = row ∧
          batch.entries[row]? = some entry ∧ call.record = entry.record ∧
          final.ledger.get? row = some status ∧ status.isTerminal = true ∧
          (plan.service n entry.record).Gives plan.policy.timeout status)) ∧
    (∀ moments : Nat → Moment, ∃ n, ¬Move batch.entries plan (moments n) (moments (n + 1))) ∧
    (∀ n claims final, 0 < n → plan.cancellation.onCall = some n →
      History batch.entries plan (first plan batch) claims final →
      final.progress.calls.length ≤ n + max 1 plan.policy.concurrency - 1) ∧
    (plan.cancellation.before = true → ∀ claims final,
      History batch.entries plan (first plan batch) claims final →
      claims = [] ∧ final.progress.calls = [] ∧ final.progress.updates = [] ∧
        final.ledger = batch.ledger) := by
  refine ⟨?_, exists_not_move batch.entries plan, ?_, ?_⟩
  · intro before m later final hm hcancelled hfinal
    obtain ⟨rfl, _⟩ := hfinal.eq_nil_of_cancelled hcancelled
    have hwhole := hm.trans hfinal
    rw [List.append_nil] at hwhole
    refine ⟨rfl, ?_, ?_, ?_⟩
    · intro row hrow
      have hbefore : m.ledger.get? row = batch.ledger.get? row :=
        (kept_of_history hm).untouched row (by rwa [claims_of_history hm])
      have hafter : final.ledger.get? row = batch.ledger.get? row :=
        (kept_of_history hwhole).untouched row (by rwa [claims_of_history hwhole])
      exact ⟨hafter.trans hbefore.symm, hbefore⟩
    · intro hcalling
      exact Nat.le_sub_one_of_lt (length_calls_of_cancelled hm hcancelled hcalling hfinal)
    · intro hover
      refine ⟨hfinal.calls_prefix, ?_, fun row hrow => result_of_claim hplan hwhole hover hrow⟩
      rw [← claims_of_history hwhole]
      exact (finished_of_over hplan hwhole hover).claims_eq.symm
  · intro n claims final hn hcall h
    obtain ⟨n, rfl⟩ := Nat.exists_eq_add_one_of_ne_zero (Nat.ne_of_gt hn)
    have hbound := length_calls_of_onCall hcall h
    change _ ≤ n + 1 + plan.policy.slots - 1
    omega
  · intro hbefore claims final h
    obtain ⟨rfl, _⟩ := h.eq_nil_of_cancelled hbefore
    exact ⟨rfl, idle_of_history h⟩

/-- Two slots; the start of the first call cancels the run, the calls take a while. -/
def hastyPlan : Plan where
  policy := ⟨2, .ofSeconds 30⟩
  service := fun _ _ => ⟨some (.ofSeconds 2), .created⟩
  cancellation := { onCall := some 1 }
  watched := true

theorem hastyPlan_neverCrashes : hastyPlan.NeverCrashes := by
  intro number record
  simp only [Plan.resolution, hastyPlan]
  decide

/-- When the first call cancels the run the second row is claimed but has not been called for. It
gets its call and ends, the third row is left. -/
theorem cancellation_freezes_claims_of_hasty :
    hastyPlan.NeverCrashes ∧
      ∃ before m later final,
        History Batch.small.entries hastyPlan (first hastyPlan Batch.small) before m ∧
        m.progress.calls.length = 1 ∧ m.progress.cancelled = true ∧
        History Batch.small.entries hastyPlan m later final ∧
        Over Batch.small.entries hastyPlan final ∧
        before = [0, 2] ∧ later = [] ∧ final.progress.calls.map Call.row = before ∧
        final.ledger.get? 3 = some .notSubmitted ∧ final.progress.calls.length ≤ 1 + 2 - 1 := by
  obtain ⟨claims, hlast⟩ := exists_history_last Batch.small.entries hastyPlan
    (first hastyPlan Batch.small)
  have hover := over_last Batch.small.entries hastyPlan (first hastyPlan Batch.small)
  have hone : 0 < (last Batch.small.entries hastyPlan
      (first hastyPlan Batch.small)).progress.calls.length := by decide +kernel
  obtain ⟨front, m, next, back, hm, hlength, hstart, hnext, hback⟩ :=
    hlast.exists_start (Nat.zero_le 0) hone
  have hcancelled : next.progress.cancelled = true := by
    apply hstart.cancelled_of_byCall (by omega)
    rw [hlength]
    rfl
  have hnow := hm.move hstart
  obtain ⟨hfrozen, _, hcount, _⟩ :=
    cancellation_freezes_claims hastyPlan_neverCrashes Batch.small
  obtain ⟨hlater, hleft, _, hends⟩ := hfrozen _ next back _ hnow hcancelled hback
  obtain ⟨_, hrows, _⟩ := hends hover
  have hbefore : front ++ turned m.ledger next.ledger = [0, 2] := by
    rw [← hrows]
    decide +kernel
  obtain ⟨hthird, hfound⟩ := hleft 3 (by rw [hbefore]; decide)
  exact ⟨hastyPlan_neverCrashes, _, next, back, _, hnow, hnext, hcancelled, hback, hover, hbefore,
    hlater, hrows, by rw [hthird, hfound]; rfl, hcount 1 _ _ Nat.one_pos rfl hlast⟩

end Run
end Enrolment

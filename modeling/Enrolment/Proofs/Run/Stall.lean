import Enrolment.Proofs.Run.Crash

/-!
When a run can only wait. Time passes for a run when no row of it can go on and it may not claim
another one; then all its slots are taken by calls under way, unless there is nothing left to claim
or the run was cancelled. So no slot is ever lost, be it by a failure, a timeout or a skipped row.
-/

namespace Enrolment
namespace Run

/-- The run can do nothing before a call under way is over: its own next step, if there is one, lets
time pass. -/
def Stalled (entries : List Entry) (plan : Plan) (m : Moment) : Prop :=
  ∀ next, step entries plan m = some next → next.progress.clock ≠ m.progress.clock

/-- Calls under way are over later than now. -/
def Timely (m : Moment) : Prop :=
  ∀ w ∈ m.progress.waiting, m.progress.clock < w.overAt

section
variable {entries : List Entry} {plan : Plan} {m next : Moment}

theorem clock_claim (row : Nat) (rest : List Nat) :
    (claim plan m row rest).progress.clock = m.progress.clock ∧
      (claim plan m row rest).progress.waiting = m.progress.waiting := by
  rw [claim]
  split
  · rw [publish_eq]
    exact ⟨rfl, rfl⟩
  · exact ⟨rfl, rfl⟩

theorem clock_finish (row : Nat) (resolution : Resolution) (rest : List Ready) :
    (finish plan m row resolution rest).progress.clock = m.progress.clock ∧
      (finish plan m row resolution rest).progress.waiting = m.progress.waiting := by
  simp only [finish]
  split
  · exact ⟨rfl, rfl⟩
  · split
    · rw [publish_eq]
      exact ⟨rfl, rfl⟩
    · exact ⟨rfl, rfl⟩

theorem clock_start (record : Record) (row : Nat) (rest : List Ready) :
    (start plan record m row rest).progress.clock = m.progress.clock := by
  simp only [start]
  split <;> rfl

theorem Timely.start (h : Timely m) (record : Record) (row : Nat) (rest : List Ready) :
    Timely (start plan record m row rest) := by
  intro w hw
  rw [clock_start]
  simp only [Run.start] at hw
  split at hw
  · exact h w hw
  · next hspan =>
      rcases List.mem_append.1 hw with hw | hw
      · exact h w hw
      · rw [List.mem_singleton.1 hw]
        exact Nat.lt_add_of_pos_right (Nat.pos_of_ne_zero hspan)

theorem timely_moveClock (instant : Nat) : Timely (moveClock plan m instant) := by
  intro w hw
  have hlate := (List.mem_filter.1 hw).2
  change instant < w.overAt
  simpa using hlate

/-- While the clock stands still calls under way stay so. -/
theorem Timely.of_eq (h : Timely m) (hclock : next.progress.clock = m.progress.clock)
    (hwaiting : next.progress.waiting = m.progress.waiting) : Timely next := by
  intro w hw
  rw [hwaiting] at hw
  rw [hclock]
  exact h w hw

theorem Timely.proceed (h : Timely m) (hnext : proceed entries plan m = some next) :
    Timely next := by
  rw [Run.proceed] at hnext
  split at hnext
  · split at hnext
    · rw [← Option.some.inj hnext]
      exact h.start _ _ _
    · rw [← Option.some.inj hnext]
      exact h.of_eq rfl rfl
  · rw [← Option.some.inj hnext]
    exact h.of_eq (clock_finish ..).1 (clock_finish ..).2
  · split at hnext
    · cases hnext
    · rw [← Option.some.inj hnext]
      exact timely_moveClock _

theorem Timely.move (h : Timely m) (hmove : Move entries plan m next) : Timely next := by
  cases hmove with
  | cancel _ _ => exact h.of_eq rfl rfl
  | @answer own _ _ _ hwaiting =>
      intro w hw
      apply h w
      rw [hwaiting]
      exact List.mem_append.2 ((List.mem_append.1 hw).imp_right (List.mem_cons_of_mem own))
  | own hstep =>
      rw [step] at hstep
      split at hstep
      · cases hstep
      · split at hstep
        · split at hstep
          · split at hstep
            · rw [← Option.some.inj hstep]
              exact h.of_eq rfl rfl
            · rw [← Option.some.inj hstep]
              exact h.of_eq (clock_claim ..).1 (clock_claim ..).2
          · exact h.proceed hstep
        · exact h.proceed hstep

theorem timely_of_history {batch : Batch} {claims : List Nat}
    (h : History batch.entries plan (first plan batch) claims m) : Timely m := by
  induction h with
  | start =>
      intro w hw
      cases hw
  | move _ hmove ih => exact ih.move hmove

/-- No row can go on just if going on lets time pass. -/
theorem ready_eq_nil_iff (h : Timely m) : m.progress.ready = [] ↔
    ∀ next, proceed entries plan m = some next → next.progress.clock ≠ m.progress.clock := by
  rw [Run.proceed]
  constructor
  · intro hready
    rw [hready]
    intro next hnext
    cases hwaiting : m.progress.waiting with
    | nil =>
        rw [hwaiting] at hnext
        cases hnext
    | cons first others =>
        rw [hwaiting] at hnext
        obtain ⟨w, hw, hover⟩ := exists_overAt_nextInstant first others
        have hlate := h w (by rw [hwaiting]; exact hw)
        rw [← Option.some.inj hnext]
        change nextInstant first others ≠ m.progress.clock
        omega
  · intro hlate
    cases hready : m.progress.ready with
    | nil => rfl
    | cons r rest =>
        -- Whatever is first in line goes on at once.
        rw [hready] at hlate
        cases r with
        | resolved row resolution => exact absurd (clock_finish ..).1 (hlate _ rfl)
        | claimed row =>
            cases hentry : entries[row]? with
            | none =>
                have hlost := hlate { m with progress := { m.progress with ready := rest } }
                exact absurd rfl (hlost (by simp [hentry]))
            | some entry =>
                have hstarted := hlate (Run.start plan entry.record m row rest)
                exact absurd (clock_start ..) (hstarted (by simp [hentry]))

/-- Before it is over, a run can only wait just if none of its rows can go on and it has no room for
another one, or no row left to look at. -/
theorem stalled_iff (h : Timely m) (hopen : m.progress.crashed = false) :
    Stalled entries plan m ↔ m.progress.ready = [] ∧
      (m.progress.remaining = [] ∨ plan.policy.slots ≤ m.progress.inProgress) := by
  have hready : m.progress.ready = [] ↔ ∀ next, Run.proceed entries plan m = some next →
      next.progress.clock ≠ m.progress.clock := ready_eq_nil_iff h
  rw [Stalled, step, if_neg (Bool.eq_false_iff.1 hopen), hready]
  by_cases hroom : m.progress.inProgress < plan.policy.slots
  · rw [if_pos hroom]
    cases hremaining : m.progress.remaining with
    | nil => simp
    | cons row rest =>
        simp only [reduceCtorEq, Nat.not_le.2 hroom, or_self, and_false, iff_false]
        intro hlate
        cases hcancelled : m.progress.cancelled with
        | true => exact hlate _ (if_pos hcancelled) rfl
        | false => exact hlate _ (if_neg (by simp [hcancelled])) (clock_claim ..).1
  · rw [if_neg hroom]
    simp [Nat.not_lt.1 hroom]

end

section
variable {batch : Batch} {plan : Plan} {claims : List Nat} {m : Moment}

/-- As long as no call has taken the run down, the rows that it has claimed and that are still
pending are as many as it has in progress. -/
theorem length_pending_eq (h : History batch.entries plan (first plan batch) claims m)
    (hopen : m.progress.crashed = false) :
    (claims.filter fun row => m.ledger.get? row = some .pending).length =
      m.progress.inProgress := by
  have k := kept_of_history h
  have hnodup : claims.Nodup := by
    rw [← claims_of_history h]
    exact k.nodup_claims
  have hsame : (claims.filter fun row => m.ledger.get? row = some .pending).Perm
      m.progress.unfinished := by
    refine (List.perm_ext_iff_of_nodup (hnodup.filter _) k.nodup_unfinished).2 fun row => ?_
    rw [mem_unfinished_iff_pending h hopen, List.mem_filter, decide_eq_true_iff]
  rw [hsame.length_eq, length_unfinished, card_held]

/-- If no row of a run can go on, what it has not finished is under way. -/
theorem exists_waiting (h : History batch.entries plan (first plan batch) claims m)
    (hopen : m.progress.crashed = false) (hready : m.progress.ready = []) {row : Nat}
    (hrow : row ∈ claims) (hpending : m.ledger.get? row = some .pending) :
    (∃ w ∈ m.progress.waiting, w.row = row) ∧ ∃ call ∈ m.progress.calls, call.row = row := by
  have hunfinished := (mem_unfinished_iff_pending h hopen).2 ⟨hrow, hpending⟩
  have hcalling : row ∈ m.progress.calling := by
    rw [Progress.unfinished, Progress.queue, hready] at hunfinished
    exact hunfinished
  refine ⟨?_, (kept_of_history h).call_of_calling hcalling⟩
  rw [Progress.calling, hready] at hcalling
  exact List.mem_map.1 hcalling

end

/-- At any moment of a run without a crash, whatever its calls do: it can only wait just if none of
its rows can go on and it has no room for another one, or no row left to look at. And when it can
only wait, the rows that it has claimed and not finished fill all its slots, and the calls for all
of them are under way; or it has claimed all that is open; or it was cancelled. -/
theorem run_never_idles {plan : Plan} (hplan : plan.NeverCrashes) {batch : Batch}
    {claims : List Nat} {m : Moment}
    (h : History batch.entries plan (first plan batch) claims m) :
    (Stalled batch.entries plan m ↔ m.progress.ready = [] ∧
      (m.progress.remaining = [] ∨ plan.policy.slots ≤ m.progress.inProgress)) ∧
    (Stalled batch.entries plan m →
      (claims.filter fun row => m.ledger.get? row = some .pending).length =
          max 1 plan.policy.concurrency ∧
        (∀ row ∈ claims, m.ledger.get? row = some .pending →
          (∃ w ∈ m.progress.waiting, w.row = row) ∧
            ∃ call ∈ m.progress.calls, call.row = row) ∨
      claims = batch.eligible ∨ m.progress.cancelled = true) := by
  have hopen := not_crashed_of_history hplan h
  have htimely := timely_of_history h
  refine ⟨stalled_iff htimely hopen, fun hwait => ?_⟩
  obtain ⟨hready, hremaining | hfull⟩ := (stalled_iff htimely hopen).1 hwait
  · -- Every row has been looked at, so all that was open is claimed.
    obtain ⟨seen, rest, hsplit, hclaims, hrest⟩ := (kept_of_history h).scanned
    rw [claims_of_history h] at hclaims
    rcases hrest with hrest | ⟨_, hcancelled⟩
    · have hnil : rest = [] := hrest.symm.trans hremaining
      right
      left
      rw [hclaims, Batch.eligible, hsplit, hnil, List.append_nil]
    · exact .inr (.inr hcancelled)
  · left
    have hbound := (roomy_of_history h).held
    rw [card_held] at hbound
    refine ⟨?_, fun row hrow hpending => exists_waiting h hopen hready hrow hpending⟩
    rw [length_pending_eq h hopen]
    exact Nat.le_antisymm hbound hfull

/-- The moment after the given number of steps of the run itself, or when it is over. -/
def afterSteps (entries : List Entry) (plan : Plan) : Nat → Moment → Moment
  | 0, m => m
  | n + 1, m =>
      match step entries plan m with
      | none => m
      | some next => afterSteps entries plan n next

theorem exists_history_afterSteps (entries : List Entry) (plan : Plan) (n : Nat) (m : Moment) :
    ∃ claims, History entries plan m claims (afterSteps entries plan n m) := by
  induction n generalizing m with
  | zero => exact ⟨[], .start⟩
  | succ n ih =>
      rw [afterSteps]
      split
      · exact ⟨[], .start⟩
      · next next hstep =>
          obtain ⟨claims, hclaims⟩ := ih next
          exact ⟨_, (History.start.move (.own hstep)).trans hclaims⟩

/-- Two slots for three rows: after two claims and two starts the run can only wait, and both slots
are taken. -/
theorem run_never_idles_of_mixed :
    (Batch.mixedPlan 2).NeverCrashes ∧
      ∃ claims m, History Batch.small.entries (Batch.mixedPlan 2)
        (first (Batch.mixedPlan 2) Batch.small) claims m ∧
      Stalled Batch.small.entries (Batch.mixedPlan 2) m ∧ m.progress.cancelled = false ∧
      (claims, Batch.small.eligible) = ([0, 2], [0, 2, 3]) ∧
      (claims.filter fun row => m.ledger.get? row = some .pending).length = 2 ∧
      ∃ w ∈ m.progress.waiting, w.row = 2 := by
  obtain ⟨claims, h⟩ := exists_history_afterSteps Batch.small.entries (Batch.mixedPlan 2) 4
    (first (Batch.mixedPlan 2) Batch.small)
  have hclaims : claims = [0, 2] := by
    rw [← claims_of_history h]
    decide +kernel
  obtain ⟨hiff, hwait⟩ := run_never_idles (Batch.mixedPlan_neverCrashes 2) h
  have hstalled := hiff.2 (by decide +kernel)
  have hopen : (afterSteps Batch.small.entries (Batch.mixedPlan 2) 4
      (first (Batch.mixedPlan 2) Batch.small)).progress.cancelled = false := by decide +kernel
  have heligible : Batch.small.eligible = [0, 2, 3] := by decide
  rcases hwait hstalled with ⟨hfull, hrows⟩ | hall | hcancelled
  · exact ⟨Batch.mixedPlan_neverCrashes 2, claims, _, h, hstalled, hopen,
      by rw [hclaims, heligible], hfull,
      (hrows 2 (by rw [hclaims]; simp) (by decide +kernel)).1⟩
  · rw [hclaims, heligible] at hall
    cases hall
  · rw [hopen] at hcancelled
    cases hcancelled

end Run
end Enrolment

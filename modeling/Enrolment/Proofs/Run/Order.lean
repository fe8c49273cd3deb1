import Enrolment.Proofs.Run.Custody

/-!
A run claims the open rows in file order, calls for them in the same order, and does not leave any
of them behind: when it is over every claimed row has been answered, unless a call took the run
down. What it did not claim it did not touch. It claims all that is open unless it is cancelled.
-/

namespace Enrolment

/-- No call of the run takes it down. A call that is given up before it would is harmless. -/
def Plan.NeverCrashes (plan : Plan) : Prop :=
  ∀ number record, plan.resolution number record ≠ .ended .crashed

theorem status?_eq_none_iff {resolution : Resolution} {timeout : Duration} :
    resolution.status? timeout = none ↔ resolution = .ended .crashed := by
  cases resolution with
  | timedOut => simp [Resolution.status?]
  | ended ending => cases ending <;> simp [Resolution.status?]

theorem Plan.NeverCrashes.status?_eq_some {plan : Plan} (h : plan.NeverCrashes) (number : Nat)
    (record : Record) : (plan.resolution number record).status? plan.policy.timeout =
      some (plan.outcome number record) := by
  cases hstatus : (plan.resolution number record).status? plan.policy.timeout with
  | none => exact absurd (status?_eq_none_iff.1 hstatus) (h number record)
  | some status => rw [Plan.outcome, hstatus, Option.getD_some]

theorem Plan.NeverCrashes.isTerminal_outcome {plan : Plan} (h : plan.NeverCrashes)
    (number : Nat) (record : Record) : (plan.outcome number record).isTerminal = true :=
  isTerminal_of_status? (h.status?_eq_some number record)

namespace Run

section
variable {before after : Ledger} {row : Nat} {status : Status}

theorem turned_self (ledger : Ledger) : turned ledger ledger = [] := by
  simp [turned]

theorem turned_of_claim (h : before.transition row .pending = .ok after) :
    turned before after = [row] := by
  have hget := Ledger.get?_of_transition h
  have hfree := Ledger.get?_of_claim h
  have hturned : ∀ other, (after.get? other = some .pending && before.get? other ≠ some .pending :
      Bool) = (other == row) := by
    intro other
    by_cases hother : other = row
    · subst hother
      simp [hget, hfree]
    · simp [hget, hother]
  have hmem : row ∈ List.range after.size := by
    have hrow : after.get? row = some .pending := by rw [hget, if_pos rfl]
    exact List.mem_range.2 (List.getElem?_eq_some_iff.1 hrow).1
  simp only [turned, hturned, List.filter_beq]
  rw [List.count_eq_one_of_mem List.nodup_range hmem]
  rfl

theorem turned_of_settle (h : before.transition row status = .ok after)
    (hstatus : status.isTerminal = true) : turned before after = [] := by
  have hget := Ledger.get?_of_transition h
  simp only [turned, List.filter_eq_nil_iff]
  intro other _
  by_cases hother : other = row
  · have hne : status ≠ .pending := by
      rintro rfl
      cases hstatus
    simp [hget, hother, hne]
  · simp [hget, hother]

end

/-- The rows that turn pending are the rows that the run claims. -/
theorem claims_step {entries : List Entry} {plan : Plan} {o after : Outline}
    (hvalid : ∀ row ∈ o.claims, entries[row]? ≠ none) (h : o.Step entries plan after) :
    after.claims = o.claims ++ turned o.ledger after.ledger := by
  cases h with
  | claim _ _ _ hledger =>
      rw [turned_of_claim hledger]
      simp only [Outline.claims, List.append_assoc]
  | settle _ hstatus hledger =>
      rw [turned_of_settle hledger (isTerminal_of_status? hstatus), List.append_nil]
      rfl
  | start hqueue _ _ =>
      simp only [Outline.claims, hqueue, turned_self, List.map_append, List.append_nil,
        List.append_assoc]
      rfl
  | @lose row _ hqueue hnone =>
      have hrow : row ∈ o.claims := List.mem_append_right _ (by rw [hqueue]; simp)
      exact absurd hnone (hvalid row hrow)
  | skip _ _ _ | stop _ | discard _ _ _ | crash _ _ | signal _ =>
      rw [turned_self, List.append_nil]
      rfl

theorem Kept.claims_step {batch : Batch} {plan : Plan} {o after : Outline} (k : Kept batch plan o)
    (h : o.Step batch.entries plan after) :
    after.claims = o.claims ++ turned o.ledger after.ledger := by
  apply Run.claims_step _ h
  intro row hrow hnone
  obtain ⟨entry, hentry, _⟩ := k.entry_of_claim hrow
  rw [hnone] at hentry
  cases hentry

/-- What a step can do to the ledger: nothing, claim one more row, or enter the answer for a row
that is held. -/
theorem Kept.ledger_step {batch : Batch} {plan : Plan} {o after : Outline} (k : Kept batch plan o)
    (h : o.Step batch.entries plan after) :
    (after.ledger = o.ledger ∧ after.claims = o.claims) ∨
      (∃ row, o.ledger.transition row .pending = .ok after.ledger ∧
        after.claims = o.claims ++ [row]) ∨
      ∃ row status, row ∈ o.held ∧ status.isTerminal = true ∧
        o.ledger.transition row status = .ok after.ledger ∧ after.claims = o.claims := by
  have hclaims := k.claims_step h
  cases h with
  | @claim row _ _ _ _ _ hledger =>
      rw [turned_of_claim hledger] at hclaims
      exact .inr (.inl ⟨row, hledger, hclaims⟩)
  | @settle row _ _ status _ hstarted hstatus hledger =>
      have hterminal := isTerminal_of_status? hstatus
      rw [turned_of_settle hledger hterminal, List.append_nil] at hclaims
      have hheld : row ∈ o.held := by rw [held_of_started hstarted]; simp
      exact .inr (.inr ⟨row, status, hheld, hterminal, hledger, hclaims⟩)
  | skip _ _ _ | stop _ | start _ _ _ | lose _ _ | discard _ _ _ | crash _ _ | signal _ =>
      rw [turned_self, List.append_nil] at hclaims
      exact .inl ⟨rfl, hclaims⟩

theorem claims_of_history {plan : Plan} {batch : Batch} {claims : List Nat} {m : Moment}
    (h : History batch.entries plan (first plan batch) claims m) : m.outline.claims = claims := by
  induction h with
  | start => rfl
  | move hearlier hmove ih =>
      rw [← ih]
      exact (kept_of_history hearlier).claims_step (outline_step hmove)

theorem Kept.not_crashed_step {batch : Batch} {plan : Plan} {o after : Outline}
    (k : Kept batch plan o) (hplan : plan.NeverCrashes)
    (h : o.Step batch.entries plan after) (hcrashed : o.crashed = false) :
    after.crashed = false := by
  cases h with
  | @crash row resolution _ hstarted hnone =>
      obtain ⟨n, call, _, _, hresolution⟩ :=
        k.answers row resolution (by rw [hstarted]; simp)
      rw [hresolution] at hnone
      exact absurd (status?_eq_none_iff.1 hnone) (hplan n call.record)
  | claim _ _ _ _ | skip _ _ _ | stop _ | start _ _ _ | lose _ _ | settle _ _ _ | discard _ _ _
  | signal _ => exact hcrashed

theorem not_crashed_of_history {plan : Plan} {batch : Batch} {claims : List Nat} {m : Moment}
    (hplan : plan.NeverCrashes)
    (h : History batch.entries plan (first plan batch) claims m) :
    m.progress.crashed = false := by
  induction h with
  | start => rfl
  | move hearlier hmove ih =>
      exact (kept_of_history hearlier).not_crashed_step hplan (outline_step hmove) ih

/-- What is true of a run that is over without a crash: it holds no row, and there was a call for
each row that it claimed. -/
structure Finished (batch : Batch) (plan : Plan) (m : Moment) : Prop where
  kept : Kept batch plan m.outline
  idle : m.outline.held = 0
  claims_eq : m.outline.claims = m.progress.calls.map Call.row
  all_of_open : m.progress.cancelled = false → m.outline.claims = batch.eligible

theorem finished_of_over {plan : Plan} {batch : Batch} {claims : List Nat} {m : Moment}
    (hplan : plan.NeverCrashes)
    (h : History batch.entries plan (first plan batch) claims m)
    (hover : Over batch.entries plan m) : Finished batch plan m := by
  have k := kept_of_history h
  obtain ⟨hremaining, hqueue, hstarted⟩ :=
    outline_of_over hover (not_crashed_of_history hplan h)
  refine ⟨k, ?_, ?_, ?_⟩
  · rw [Outline.held, hqueue, hstarted]
    rfl
  · rw [Outline.claims, hqueue, List.append_nil]
    rfl
  · intro hopen
    obtain ⟨seen, rest, hsplit, hclaims, hrest⟩ := k.scanned
    have hnil : rest = [] := by
      rcases hrest with hrest | ⟨_, hcancelled⟩
      · rw [← hrest, hremaining]
      · exact absurd hcancelled (by rw [show m.outline.cancelled = false from hopen]; simp)
    rw [hclaims, Batch.eligible, hsplit, hnil, List.append_nil]

/-- The row of the n-th call ends as that call says. -/
theorem Finished.status_of_call {batch : Batch} {plan : Plan} {m : Moment}
    (f : Finished batch plan m) {n : Nat} {call : Call} (h : m.progress.calls[n]? = some call) :
    m.ledger.get? call.row = some (plan.outcome n call.record) :=
  f.kept.finished n call h (by rw [f.idle]; exact Multiset.notMem_zero _)

theorem Finished.terminal {batch : Batch} {plan : Plan} {m : Moment}
    (f : Finished batch plan m) (hplan : plan.NeverCrashes) {row : Nat}
    (h : row ∈ m.outline.claims) :
    ∃ status, m.ledger.get? row = some status ∧ status.isTerminal = true := by
  rw [f.claims_eq] at h
  obtain ⟨call, hcall, rfl⟩ := List.mem_map.1 h
  obtain ⟨n, hn⟩ := List.getElem?_of_mem hcall
  exact ⟨_, f.status_of_call hn, hplan.isTerminal_outcome n call.record⟩

/-- No run without a crash goes on for ever. When it is over, the rows that turned pending are a
prefix of those that the run found open, its calls were for just these rows in just this order,
each of them ended in a final status, and every other row is as the run found it. Only a
cancellation keeps the run from claiming all. -/
theorem run_finishes_claims {plan : Plan} (hplan : plan.NeverCrashes) (batch : Batch) :
    (∀ moments : Nat → Moment, moments 0 = first plan batch →
      ∃ n, ¬Move batch.entries plan (moments n) (moments (n + 1))) ∧
    ∀ claims m, History batch.entries plan (first plan batch) claims m →
      Over batch.entries plan m →
      claims <+: batch.eligible ∧
      m.progress.calls.map Call.row = claims ∧ claims.Nodup ∧
      (∀ row ∈ claims, ∃ status, m.ledger.get? row = some status ∧ status.isTerminal = true) ∧
      (∀ row, row ∉ claims → m.ledger.get? row = batch.ledger.get? row) ∧
      (m.progress.cancelled = false → claims = batch.eligible) := by
  refine ⟨fun moments _ => exists_not_move batch.entries plan moments, ?_⟩
  intro claims m hhistory hover
  have f := finished_of_over hplan hhistory hover
  have hclaims := claims_of_history hhistory
  obtain ⟨rest, heligible⟩ := f.kept.eligible_eq
  subst hclaims
  refine ⟨⟨rest, heligible.symm⟩, f.claims_eq.symm, f.kept.nodup_claims, ?_, f.kept.untouched,
    f.all_of_open⟩
  intro row hrow
  exact f.terminal hplan hrow

/-- One slot; no call returns, and the run is cancelled by its second call. -/
def hangingPlan : Plan where
  policy := ⟨1, .ofSeconds 30⟩
  service := fun _ _ => ⟨none, .created⟩
  cancellation := { onCall := some 2 }
  watched := true

theorem hangingPlan_neverCrashes : hangingPlan.NeverCrashes := by
  intro number record h
  cases h

/-- Two of the three open rows are claimed, in file order, and both end. -/
theorem run_finishes_claims_of_hanging :
    hangingPlan.NeverCrashes ∧
      ((Batch.small.run hangingPlan).2.calls.map Call.row, Batch.small.eligible) =
        ([0, 2], [0, 2, 3]) ∧
      (Batch.small.run hangingPlan).2.calls.map Call.row <+: Batch.small.eligible ∧
      ∀ row ∈ (Batch.small.run hangingPlan).2.calls.map Call.row,
        ∃ status, (Batch.small.run hangingPlan).1.status? row = some status ∧
          status.isTerminal = true := by
  obtain ⟨claims, hhistory⟩ := exists_history_last Batch.small.entries hangingPlan
    (first hangingPlan Batch.small)
  obtain ⟨hinitial, hcalls, _, hterminal, _⟩ :=
    (run_finishes_claims hangingPlan_neverCrashes Batch.small).2 claims _ hhistory (over_last ..)
  refine ⟨hangingPlan_neverCrashes, by decide +kernel, ?_⟩
  rw [← hcalls] at hinitial hterminal
  exact ⟨hinitial, hterminal⟩

end Run
end Enrolment

import Enrolment.Proofs.Run.Order

/-!
A run never has more in hand than it has slots. A row takes a slot from its claim to the entry of
its answer, so the calls under way are no more than the rows that the run keeps pending; and a call
that takes the run down leaves its row pending, but then nothing is claimed any more.
-/

namespace Enrolment
namespace Run

namespace Progress

/-- The rows whose calls have started and are not over. -/
def calling (p : Progress) : List Nat :=
  (p.ready.filter Ready.hasStarted).map Ready.row ++ p.waiting.map Waiting.row

theorem length_calling (p : Progress) : p.calling.length = p.underWay := by
  simp only [calling, underWay, List.length_append, List.length_map, List.countP_eq_length_filter]
  omega

theorem coe_calling (p : Progress) : (p.calling : Multiset Nat) = p.started.map Prod.fst := by
  have hready : ∀ ready : List Ready, (ready.filter Ready.hasStarted).map Ready.row =
      (ready.filterMap Ready.over?).map Prod.fst := by
    intro ready
    induction ready with
    | nil => rfl
    | cons r ready ih => cases r <;> simp [List.filter_cons, Ready.hasStarted, Ready.row, ih]
  have hwaiting : p.waiting.map Waiting.row = (p.waiting.map Waiting.answer).map Prod.fst := by
    rw [List.map_map]
    rfl
  rw [calling, hready, hwaiting, started, Multiset.map_add, Multiset.map_coe, Multiset.map_coe,
    Multiset.coe_add]

end Progress

theorem held_eq (m : Moment) :
    m.outline.held = (m.progress.queue : Multiset Nat) + (m.progress.calling : Multiset Nat) := by
  rw [Progress.coe_calling]
  rfl

/-- The rows that the run has claimed and that are still pending. -/
def Outline.pending (o : Outline) : List Nat :=
  o.claims.filter fun row => o.ledger.get? row = some .pending

/-- What the run has in hand fits into its slots. -/
structure Roomy (plan : Plan) (o : Outline) : Prop where
  held : Multiset.card o.held ≤ plan.policy.slots
  pending : o.pending.length ≤ plan.policy.slots
  /-- Only a crash leaves a row pending that is not held. -/
  covered : o.crashed = false → ∀ row ∈ o.pending, row ∈ o.held
  noted : ∀ call ∈ o.calls, call.inFlight ≤ plan.policy.slots

section
variable {batch : Batch} {plan : Plan} {o after : Outline} {claims : List Nat} {m : Moment}

theorem mem_pending_iff {row : Nat} :
    row ∈ o.pending ↔ row ∈ o.claims ∧ o.ledger.get? row = some .pending := by
  simp [Outline.pending]

theorem Kept.length_pending_le (k : Kept batch plan o) (h : ∀ row ∈ o.pending, row ∈ o.held) :
    o.pending.length ≤ Multiset.card o.held := by
  have hnodup : (o.pending : Multiset Nat).Nodup := Multiset.coe_nodup.2 (k.nodup_claims.filter _)
  have hle : (o.pending : Multiset Nat) ≤ o.held :=
    (Multiset.le_iff_subset hnodup).2 fun row hrow => h row (Multiset.mem_coe.1 hrow)
  exact Multiset.card_le_card hle

/-- Only a claim takes a slot, and it needs a free one. -/
theorem card_held_step (r : Roomy plan o) {entries : List Entry} (h : o.Step entries plan after) :
    Multiset.card after.held ≤ plan.policy.slots := by
  have hheld := r.held
  cases h with
  | claim hroom _ _ _ =>
      simp only [Outline.held, Multiset.card_add, Multiset.coe_card, List.length_append,
        List.length_singleton] at hroom ⊢
      omega
  | start hqueue _ _ =>
      simp only [Outline.held, hqueue, Multiset.card_add, Multiset.coe_card, List.length_cons,
        Multiset.map_cons, Multiset.card_cons] at hheld ⊢
      omega
  | lose hqueue _ =>
      simp only [Outline.held, hqueue, Multiset.card_add, Multiset.coe_card,
        List.length_cons] at hheld ⊢
      omega
  | settle hstarted _ _ | discard hstarted _ _ | crash hstarted _ =>
      rw [Kept.held_of_started hstarted, Multiset.card_cons] at hheld
      exact Nat.le_of_succ_le hheld
  | skip _ _ _ | stop _ | signal _ => exact hheld

theorem covered_step (r : Roomy plan o) (k : Kept batch plan o) (hopen : o.crashed = false)
    (h : o.Step batch.entries plan after) (hafter : after.crashed = false) :
    ∀ row ∈ after.pending, row ∈ after.held := by
  have hclaims := k.claims_step h
  intro row hrow
  obtain ⟨hclaimed, hpending⟩ := mem_pending_iff.1 hrow
  have hcovered : row ∈ o.claims → o.ledger.get? row = some .pending → row ∈ o.held :=
    fun hclaimed hpending => r.covered hopen row (mem_pending_iff.2 ⟨hclaimed, hpending⟩)
  cases h with
  | @claim own _ _ _ _ _ hledger =>
      rw [Ledger.get?_of_transition hledger] at hpending
      rw [hclaims, turned_of_claim hledger, List.mem_append, List.mem_singleton] at hclaimed
      by_cases hown : row = own
      · simp [Outline.held, hown]
      · rw [if_neg hown] at hpending
        have hheld := hcovered (hclaimed.resolve_right hown) hpending
        simp only [Outline.held, Multiset.mem_add, Multiset.mem_coe, List.mem_append] at hheld ⊢
        tauto
  | @settle own _ _ status _ hstarted hstatus hledger =>
      have hterminal := isTerminal_of_status? hstatus
      rw [Ledger.get?_of_transition hledger] at hpending
      rw [hclaims, turned_of_settle hledger hterminal, List.append_nil] at hclaimed
      by_cases hown : row = own
      · -- The row of the answer has a final status now, so it is not pending.
        rw [if_pos hown, Option.some.injEq] at hpending
        rw [hpending] at hterminal
        cases hterminal
      · rw [if_neg hown] at hpending
        have hheld := hcovered hclaimed hpending
        rw [Kept.held_of_started hstarted, Multiset.mem_cons] at hheld
        exact hheld.resolve_left hown
  | start hqueue _ _ =>
      rw [hclaims, turned_self, List.append_nil] at hclaimed
      have hheld := hcovered hclaimed hpending
      simp only [Outline.held, hqueue, Multiset.mem_add, Multiset.mem_coe, List.mem_cons,
        Multiset.map_cons, Multiset.mem_cons] at hheld ⊢
      tauto
  | lose hqueue hnone => exact absurd hnone (k.entry_of_queue hqueue)
  | discard hstarted hstatus herror => exact absurd herror (k.answer_accepted hstarted hstatus)
  | crash _ _ => cases hafter
  | skip _ _ _ | stop _ | signal _ =>
      rw [hclaims, turned_self, List.append_nil] at hclaimed
      exact hcovered hclaimed hpending

theorem noted_step (r : Roomy plan o) {entries : List Entry} (h : o.Step entries plan after) :
    ∀ call ∈ after.calls, call.inFlight ≤ plan.policy.slots := by
  cases h with
  | start hqueue _ _ =>
      intro call hcall
      rcases List.mem_append.1 hcall with hcall | hcall
      · exact r.noted call hcall
      · have hheld := r.held
        simp only [Outline.held, hqueue, Multiset.card_add, Multiset.coe_card, List.length_cons,
          Multiset.card_map] at hheld
        rw [List.mem_singleton.1 hcall]
        change Multiset.card o.started + 1 ≤ plan.policy.slots
        omega
  | claim _ _ _ _ | skip _ _ _ | stop _ | lose _ _ | settle _ _ _ | discard _ _ _ | crash _ _
  | signal _ => exact r.noted

theorem Roomy.step (r : Roomy plan o) (k : Kept batch plan o) (hopen : o.crashed = false)
    (h : o.Step batch.entries plan after) : Roomy plan after where
  held := card_held_step r h
  covered := covered_step r k hopen h
  noted := noted_step r h
  pending := by
    cases hafter : after.crashed with
    | false =>
        have hle := (k.step h).length_pending_le (covered_step r k hopen h hafter)
        exact hle.trans (card_held_step r h)
    | true =>
        -- The crash itself leaves all claims and statuses as they were.
        cases h with
        | crash _ _ => exact r.pending
        | claim _ _ _ _ | skip _ _ _ | stop _ | start _ _ _ | lose _ _ | settle _ _ _
        | discard _ _ _ | signal _ => exact absurd hafter (Bool.eq_false_iff.1 hopen)

theorem roomy_of_history (h : History batch.entries plan (first plan batch) claims m) :
    Roomy plan m.outline := by
  induction h with
  | start =>
      refine ⟨Nat.zero_le _, Nat.zero_le _, ?_, ?_⟩
      · intro _ row hrow
        cases (mem_pending_iff.1 hrow).1
      · intro call hcall
        cases hcall
  | move hearlier hmove ih =>
      exact ih.step (kept_of_history hearlier) hmove.not_crashed (outline_step hmove)

theorem mem_held_of_calling {row : Nat} (h : row ∈ m.progress.calling) : row ∈ m.outline.held := by
  rw [held_eq, Multiset.mem_add]
  exact .inr (Multiset.mem_coe.2 h)

theorem Kept.nodup_calling (k : Kept batch plan m.outline) : m.progress.calling.Nodup := by
  have hnodup := k.nodup_held
  rw [held_eq, Multiset.coe_add, Multiset.coe_nodup] at hnodup
  exact hnodup.of_append_right

theorem length_calling_le (h : History batch.entries plan (first plan batch) claims m) :
    m.progress.calling.length ≤ plan.policy.slots := by
  have hheld := (roomy_of_history h).held
  rw [held_eq, Multiset.card_add, Multiset.coe_card, Multiset.coe_card] at hheld
  omega

theorem Kept.call_of_calling (k : Kept batch plan m.outline) {row : Nat}
    (h : row ∈ m.progress.calling) : ∃ call ∈ m.progress.calls, call.row = row := by
  rw [← Multiset.mem_coe, Progress.coe_calling] at h
  obtain ⟨⟨own, resolution⟩, hstarted, rfl⟩ := Multiset.mem_map.1 h
  obtain ⟨n, call, hcall, hrow, _⟩ := k.answers own resolution hstarted
  exact ⟨call, List.mem_of_getElem? hcall, hrow⟩

/-- A call whose row is still pending is not over. -/
theorem calling_of_pending (h : History batch.entries plan (first plan batch) claims m)
    (hopen : m.progress.crashed = false) {call : Call} (hcall : call ∈ m.progress.calls)
    (hpending : m.ledger.get? call.row = some .pending) : call.row ∈ m.progress.calling := by
  have k := kept_of_history h
  have hrow : call.row ∈ m.progress.calls.map Call.row := List.mem_map_of_mem hcall
  have hclaimed : call.row ∈ m.outline.claims := List.mem_append_left _ hrow
  have hheld := (roomy_of_history h).covered hopen _ (mem_pending_iff.2 ⟨hclaimed, hpending⟩)
  rw [held_eq, Multiset.mem_add, Multiset.mem_coe, Multiset.mem_coe] at hheld
  refine hheld.resolve_left fun hqueue => ?_
  exact (List.nodup_append.1 k.nodup_claims).2.2 _ hrow _ hqueue rfl

end

/-- At any moment of a run, whatever its calls do: the rows that it has turned pending and that are
pending still are no more than its slots, and neither are the calls that have started and are not
over. Each of those is for one of those rows, and no two are for the same. -/
theorem slots_bound_work {plan : Plan} {batch : Batch} {claims : List Nat} {m : Moment}
    (h : History batch.entries plan (first plan batch) claims m) :
    (claims.filter fun row => m.ledger.get? row = some .pending).length ≤
        max 1 plan.policy.concurrency ∧
      m.progress.calling.length ≤ max 1 plan.policy.concurrency ∧
      m.progress.calling.Nodup ∧
      (∀ row ∈ m.progress.calling, row ∈ claims ∧ m.ledger.get? row = some .pending ∧
        ∃ call ∈ m.progress.calls, call.row = row) ∧
      (m.progress.crashed = false → ∀ call ∈ m.progress.calls,
        m.ledger.get? call.row = some .pending → call.row ∈ m.progress.calling) ∧
      ∀ call ∈ m.progress.calls, call.inFlight ≤ max 1 plan.policy.concurrency := by
  have k := kept_of_history h
  have r := roomy_of_history h
  have hpending := r.pending
  rw [Outline.pending, claims_of_history h] at hpending
  refine ⟨hpending, length_calling_le h, k.nodup_calling, ?_, ?_, r.noted⟩
  · intro row hrow
    have hheld := mem_held_of_calling hrow
    have hclaimed := k.claimed row hheld
    rw [claims_of_history h] at hclaimed
    exact ⟨hclaimed, k.pending row hheld, k.call_of_calling hrow⟩
  · intro hopen call hcall
    exact calling_of_pending h hopen hcall

/-- Two slots; the first call takes the run down while the second is under way. -/
def collapsingPlan : Plan where
  policy := ⟨2, .ofSeconds 30⟩
  service := fun number _ =>
    if number = 0 then ⟨some (.ofSeconds 2), .crashed⟩ else ⟨some (.ofSeconds 4), .created⟩
  cancellation := .never
  watched := true

/-- When the run has gone down both of its rows are pending, one of them with a call under way. -/
theorem slots_bound_work_in_collapse :
    ∃ claims m, History Batch.small.entries collapsingPlan (first collapsingPlan Batch.small)
        claims m ∧
      (claims, m.progress.calling, m.progress.crashed) = ([0, 2], [2], true) ∧
      (claims.filter fun row => m.ledger.get? row = some .pending).length ≤ 2 ∧
      m.progress.calling.length ≤ 2 ∧ m.ledger.get? 2 = some .pending := by
  obtain ⟨claims, hhistory⟩ := exists_history_last Batch.small.entries collapsingPlan
    (first collapsingPlan Batch.small)
  obtain ⟨hpending, hcalling, _, hrows, _⟩ := slots_bound_work hhistory
  have hshape : (last Batch.small.entries collapsingPlan
      (first collapsingPlan Batch.small)).progress.calling = [2] := by decide +kernel
  have hclaims : claims = [0, 2] := by
    rw [← claims_of_history hhistory]
    decide +kernel
  have hcrashed : (last Batch.small.entries collapsingPlan
      (first collapsingPlan Batch.small)).progress.crashed = true := by decide +kernel
  refine ⟨claims, _, hhistory, by rw [hshape, hclaims, hcrashed], hpending, hcalling, ?_⟩
  exact (hrows 2 (by rw [hshape]; simp)).2.1

end Run
end Enrolment

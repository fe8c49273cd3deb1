import Mathlib.Data.Multiset.UnionInter
import Enrolment.Proofs.Batch
import Enrolment.Proofs.Run.Outline

/-!
Who answers for a row. From its claim to the entry of its answer a row is held by the run and is
pending; before, it is as the run found it, and afterwards it is what its own call gave. The claimed
rows are a prefix of the rows that the run found open, in file order.

All of this is one invariant of the outline, kept by every step.
-/

namespace Enrolment

theorem isTerminal_of_status? {resolution : Resolution} {timeout : Duration} {status : Status}
    (h : resolution.status? timeout = some status) : status.isTerminal = true := by
  cases resolution with
  | timedOut =>
      rw [← Option.some.inj h]
      rfl
  | ended ending =>
      cases ending with
      | crashed => cases h
      | created | rejected _ _ | unanswered _ =>
          rw [← Option.some.inj h]
          rfl

/-- The status of a row whose call is over; after a crash it stays pending. -/
def Plan.outcome (plan : Plan) (number : Nat) (record : Record) : Status :=
  ((plan.resolution number record).status? plan.policy.timeout).getD .pending

namespace Run

structure Kept (batch : Batch) (plan : Plan) (o : Outline) : Prop where
  /-- The rows looked at so far are a prefix of the valid ones, and of those all were claimed that
  were open. -/
  scanned : ∃ seen rest, batch.validIndices = seen ++ rest ∧
    o.claims = seen.filter batch.isOpen ∧
    (o.remaining = rest ∨ o.remaining = [] ∧ o.cancelled = true)
  nodup_held : o.held.Nodup
  pending : ∀ row ∈ o.held, o.ledger.get? row = some .pending
  claimed : ∀ row ∈ o.held, row ∈ o.claims
  untouched : ∀ row, row ∉ o.claims → o.ledger.get? row = batch.ledger.get? row
  records : ∀ call ∈ o.calls, ∃ entry, batch.entries[call.row]? = some entry ∧
    call.record = entry.record
  answers : ∀ row resolution, (row, resolution) ∈ o.started →
    ∃ n call, o.calls[n]? = some call ∧ call.row = row ∧
      resolution = plan.resolution n call.record
  finished : ∀ n call, o.calls[n]? = some call → call.row ∉ o.held →
    o.ledger.get? call.row = some (plan.outcome n call.record)

namespace Kept

variable {batch : Batch} {plan : Plan} {o : Outline}

theorem eligible_eq (k : Kept batch plan o) : ∃ rest, batch.eligible = o.claims ++ rest := by
  obtain ⟨seen, rest, hsplit, hclaims, _⟩ := k.scanned
  refine ⟨rest.filter batch.isOpen, ?_⟩
  rw [Batch.eligible, hsplit, List.filter_append, hclaims]

theorem pairwise_lt_claims (k : Kept batch plan o) : o.claims.Pairwise (· < ·) := by
  obtain ⟨rest, heligible⟩ := k.eligible_eq
  have hsorted := batch.pairwise_lt_eligible
  rw [heligible] at hsorted
  exact (List.pairwise_append.1 hsorted).1

theorem nodup_claims (k : Kept batch plan o) : o.claims.Nodup :=
  k.pairwise_lt_claims.imp Nat.ne_of_lt

theorem mem_eligible (k : Kept batch plan o) {row : Nat} (h : row ∈ o.claims) :
    row ∈ batch.eligible := by
  obtain ⟨rest, heligible⟩ := k.eligible_eq
  rw [heligible]
  exact List.mem_append_left _ h

theorem entry_of_claim (k : Kept batch plan o) {row : Nat} (h : row ∈ o.claims) :
    ∃ entry, batch.entries[row]? = some entry ∧ entry.verdict = .valid :=
  Batch.mem_validIndices_iff.1 (List.mem_filter.1 (k.mem_eligible h)).1

theorem open_of_claim (k : Kept batch plan o) {row : Nat} (h : row ∈ o.claims) :
    batch.ledger.get? row = some .notSubmitted :=
  Batch.isOpen_iff.1 (List.mem_filter.1 (k.mem_eligible h)).2

/-- Two calls of one run are never for the same row. -/
theorem call_unique (k : Kept batch plan o) {i j : Nat} {left right : Call}
    (hi : o.calls[i]? = some left) (hj : o.calls[j]? = some right)
    (hrow : left.row = right.row) : i = j := by
  have hnodup : (o.calls.map Call.row).Nodup := k.nodup_claims.of_append_left
  have hlt : i < (o.calls.map Call.row).length := by
    rw [List.length_map]
    exact (List.getElem?_eq_some_iff.1 hi).1
  apply (List.getElem?_inj hlt hnodup).1
  rw [List.getElem?_map, List.getElem?_map, hi, hj, Option.map_some, Option.map_some, hrow]

/-- A claimed row that is not held is what its own call gave. -/
theorem exists_call_of_claim (k : Kept batch plan o) {row : Nat} (h : row ∈ o.claims)
    (hfree : row ∉ o.held) :
    ∃ n call, o.calls[n]? = some call ∧ call.row = row ∧
      o.ledger.get? row = some (plan.outcome n call.record) := by
  have hcalled : row ∈ o.calls.map Call.row := by
    rcases List.mem_append.1 h with hcalled | hqueue
    · exact hcalled
    · exact absurd (Multiset.mem_add.2 (.inl (Multiset.mem_coe.2 hqueue))) hfree
  obtain ⟨call, hcall, rfl⟩ := List.mem_map.1 hcalled
  obtain ⟨n, hn⟩ := List.getElem?_of_mem hcall
  exact ⟨n, call, hn, rfl, k.finished n call hn hfree⟩

/-- The next row that the run looks at is as the run found it. -/
theorem next_untouched (k : Kept batch plan o) {row : Nat} {rest : List Nat}
    (hremaining : o.remaining = row :: rest) :
    ∃ seen, batch.validIndices = seen ++ row :: rest ∧
      o.claims = seen.filter batch.isOpen ∧ row ∉ o.claims := by
  obtain ⟨seen, rest', hsplit, hclaims, hrest⟩ := k.scanned
  obtain hrest | ⟨hnil, _⟩ := hrest
  · refine ⟨seen, by rw [hsplit, ← hrest, hremaining], hclaims, ?_⟩
    have hnodup := batch.nodup_validIndices
    rw [hsplit, ← hrest, hremaining] at hnodup
    rw [hclaims]
    intro hmem
    exact (List.nodup_append.1 hnodup).2.2 row (List.mem_filter.1 hmem).1 row (by simp) rfl
  · rw [hnil] at hremaining
    cases hremaining

theorem claim (k : Kept batch plan o) {row : Nat} {rest : List Nat} {ledger : Ledger}
    {updates : List Update} (hremaining : o.remaining = row :: rest)
    (hledger : o.ledger.transition row .pending = .ok ledger) :
    Kept batch plan { o with ledger, remaining := rest, queue := o.queue ++ [row], updates } := by
  obtain ⟨seen, hsplit, hclaims, hrow⟩ := k.next_untouched hremaining
  have hfree : o.ledger.get? row = some .notSubmitted := Ledger.get?_of_claim hledger
  have hopen : batch.isOpen row = true := by
    rw [Batch.isOpen_iff, ← k.untouched row hrow, hfree]
  have hget := Ledger.get?_of_transition hledger
  have hheld : row ∉ o.held := fun h => hrow (k.claimed row h)
  let next : Outline := { o with ledger, remaining := rest, queue := o.queue ++ [row], updates }
  have hnextHeld : next.held = row ::ₘ o.held := by
    simp only [next, Outline.held, ← cons_coe_eq_append, Multiset.cons_add]
  have hnextClaims : next.claims = o.claims ++ [row] := by
    simp only [next, Outline.claims, List.append_assoc]
  change Kept batch plan next
  refine ⟨⟨seen ++ [row], rest, ?_, ?_, .inl rfl⟩, ?_, ?_, ?_, ?_, k.records, k.answers, ?_⟩
  · rw [hsplit, List.append_assoc, List.singleton_append]
  · rw [hnextClaims, hclaims, List.filter_append, List.filter_singleton, hopen]
    rfl
  · rw [hnextHeld]
    exact Multiset.nodup_cons.2 ⟨hheld, k.nodup_held⟩
  · intro other hother
    rw [hnextHeld, Multiset.mem_cons] at hother
    rw [hget]
    split
    · rfl
    · next hne => exact k.pending other (hother.resolve_left hne)
  · intro other hother
    rw [hnextHeld, Multiset.mem_cons] at hother
    rw [hnextClaims, List.mem_append, List.mem_singleton]
    obtain rfl | hother := hother
    · exact .inr rfl
    · exact .inl (k.claimed other hother)
  · intro other hother
    rw [hnextClaims, List.mem_append, List.mem_singleton, not_or] at hother
    rw [hget, if_neg hother.2]
    exact k.untouched other hother.1
  · intro n call hcall hother
    rw [hnextHeld, Multiset.mem_cons, not_or] at hother
    rw [hget, if_neg hother.1]
    exact k.finished n call hcall hother.2

theorem skip (k : Kept batch plan o) {row : Nat} {rest : List Nat} {error : LedgerError}
    (hremaining : o.remaining = row :: rest)
    (herror : o.ledger.transition row .pending = .error error) :
    Kept batch plan { o with remaining := rest } := by
  obtain ⟨seen, hsplit, hclaims, hrow⟩ := k.next_untouched hremaining
  have hclosed : batch.isOpen row = false := by
    rw [Bool.eq_false_iff, ne_eq, Batch.isOpen_iff, ← k.untouched row hrow]
    exact Ledger.get?_ne_of_refused herror
  refine { k with scanned := ⟨seen ++ [row], rest, ?_, ?_, .inl rfl⟩ }
  · rw [hsplit, List.append_assoc, List.singleton_append]
  · change o.claims = _
    rw [hclaims, List.filter_append, List.filter_singleton, hclosed]
    exact (List.append_nil _).symm

theorem stop (k : Kept batch plan o) (hcancelled : o.cancelled = true) :
    Kept batch plan { o with remaining := [] } := by
  obtain ⟨seen, rest, hsplit, hclaims, _⟩ := k.scanned
  exact { k with scanned := ⟨seen, rest, hsplit, hclaims, .inr ⟨rfl, hcancelled⟩⟩ }

theorem signal (k : Kept batch plan o) {cancelled : Bool}
    (hkept : o.cancelled = true → cancelled = true) :
    Kept batch plan { o with cancelled } := by
  obtain ⟨seen, rest, hsplit, hclaims, hrest⟩ := k.scanned
  exact { k with scanned := ⟨seen, rest, hsplit, hclaims, hrest.imp_right (And.imp_right hkept)⟩ }

theorem start (k : Kept batch plan o) {row : Nat} {rest : List Nat} {call : Call}
    {cancelled : Bool} {entry : Entry} (hqueue : o.queue = row :: rest)
    (hentry : batch.entries[row]? = some entry) (hcall : call.row = row)
    (hrecord : call.record = entry.record) (hkept : o.cancelled = true → cancelled = true) :
    Kept batch plan
      { o with
        queue := rest
        started := (row, plan.resolution o.calls.length entry.record) ::ₘ o.started
        calls := o.calls ++ [call]
        cancelled } := by
  let next : Outline :=
    { o with
      queue := rest
      started := (row, plan.resolution o.calls.length entry.record) ::ₘ o.started
      calls := o.calls ++ [call]
      cancelled }
  have hnextHeld : next.held = o.held := by
    simp only [next, Outline.held, hqueue, Multiset.map_cons, Multiset.add_cons,
      ← Multiset.cons_coe, Multiset.cons_add]
  have hnextClaims : next.claims = o.claims := by
    simp only [next, Outline.claims, hqueue, List.map_append, List.map_cons, List.map_nil, hcall,
      List.append_assoc, List.singleton_append]
  have hlast : (o.calls ++ [call])[o.calls.length]? = some call := by simp
  change Kept batch plan next
  refine ⟨?_, ?_, ?_, ?_, ?_, ?_, ?_, ?_⟩
  · obtain ⟨seen, rest', hsplit, hclaims, hrest⟩ := k.scanned
    exact ⟨seen, rest', hsplit, hnextClaims.trans hclaims,
      hrest.imp_right (And.imp_right hkept)⟩
  · rw [hnextHeld]
    exact k.nodup_held
  · rw [hnextHeld]
    exact k.pending
  · rw [hnextHeld, hnextClaims]
    exact k.claimed
  · rw [hnextClaims]
    exact k.untouched
  · intro other hother
    rcases List.mem_append.1 hother with hother | hother
    · exact k.records other hother
    · rw [List.mem_singleton.1 hother]
      exact ⟨entry, by rw [hcall, hentry], hrecord⟩
  · intro other resolution hother
    rcases Multiset.mem_cons.1 hother with hnew | hother
    · obtain ⟨rfl, rfl⟩ := Prod.mk.inj hnew
      exact ⟨o.calls.length, call, hlast, hcall, by rw [hrecord]⟩
    · obtain ⟨n, old, hold, hrow, hresolution⟩ := k.answers other resolution hother
      exact ⟨n, old, List.getElem?_append_left (List.getElem?_eq_some_iff.1 hold).1 ▸ hold, hrow,
        hresolution⟩
  · intro n other hother hfree
    rw [hnextHeld] at hfree
    rcases Nat.lt_or_ge n o.calls.length with hn | hn
    · rw [show next.calls = o.calls ++ [call] from rfl, List.getElem?_append_left hn] at hother
      exact k.finished n other hother hfree
    · rw [show next.calls = o.calls ++ [call] from rfl, List.getElem?_append_right hn] at hother
      have hnew : other = call := by
        have hmem := List.mem_of_getElem? hother
        exact List.mem_singleton.1 hmem
      -- The new call has started but is not answered, so its row is still held.
      have hheld : row ∈ o.held := by simp [Outline.held, hqueue]
      rw [hnew, hcall] at hfree
      exact absurd hheld hfree

theorem held_of_started {row : Nat} {resolution : Resolution}
    {others : Multiset (Nat × Resolution)} (hstarted : o.started = (row, resolution) ::ₘ others) :
    o.held = row ::ₘ Outline.held { o with started := others } := by
  simp only [Outline.held, hstarted, Multiset.map_cons, Multiset.add_cons]

/-- The run lets go of a row, whose status is what its call gave. -/
theorem release (k : Kept batch plan o) {row : Nat} {resolution : Resolution}
    {others : Multiset (Nat × Resolution)} {ledger : Ledger} {updates : List Update}
    {crashed : Bool} (hstarted : o.started = (row, resolution) ::ₘ others)
    (hget : ∀ other, ledger.get? other =
      if other = row then some ((resolution.status? plan.policy.timeout).getD .pending)
      else o.ledger.get? other) :
    Kept batch plan { o with ledger, started := others, updates, crashed } := by
  let next : Outline := { o with ledger, started := others, updates, crashed }
  have hheld : o.held = row ::ₘ next.held := held_of_started hstarted
  have hnodup := k.nodup_held
  rw [hheld, Multiset.nodup_cons] at hnodup
  have hmem : ∀ other ∈ next.held, other ∈ o.held := by
    intro other hother
    rw [hheld]
    exact Multiset.mem_cons_of_mem hother
  have hclaimed : row ∈ o.claims := k.claimed row (by rw [hheld]; simp)
  change Kept batch plan next
  refine ⟨k.scanned, hnodup.2, ?_, ?_, ?_, k.records, ?_, ?_⟩
  · intro other hother
    have hne : other ≠ row := by
      rintro rfl
      exact hnodup.1 hother
    rw [show next.ledger = ledger from rfl, hget, if_neg hne]
    exact k.pending other (hmem other hother)
  · intro other hother
    exact k.claimed other (hmem other hother)
  · intro other hother
    have hne : other ≠ row := by
      rintro rfl
      exact hother hclaimed
    rw [show next.ledger = ledger from rfl, hget, if_neg hne]
    exact k.untouched other hother
  · intro other given hother
    exact k.answers other given (by rw [hstarted]; exact Multiset.mem_cons_of_mem hother)
  · intro n call hcall hfree
    rw [show next.ledger = ledger from rfl, hget]
    split
    · next hrow =>
        -- The row has no other call, so what was given is what this call gives.
        obtain ⟨i, own, hown, hownRow, hresolution⟩ :=
          k.answers row resolution (by rw [hstarted]; simp)
        obtain rfl := k.call_unique hcall hown (hrow.trans hownRow.symm)
        obtain rfl : call = own := Option.some.inj (hcall.symm.trans hown)
        rw [hresolution]
        rfl
    · next hne =>
        apply k.finished n call hcall
        rw [hheld, Multiset.mem_cons, not_or]
        exact ⟨hne, hfree⟩

/-- A row that waits for its call is in the batch. -/
theorem entry_of_queue (k : Kept batch plan o) {row : Nat} {rest : List Nat}
    (hqueue : o.queue = row :: rest) : batch.entries[row]? ≠ none := by
  have hclaimed := k.claimed row (by simp [Outline.held, hqueue])
  obtain ⟨entry, hentry, _⟩ := k.entry_of_claim hclaimed
  rw [hentry]
  simp

/-- A held row is pending, so the ledger takes any final status for it. -/
theorem answer_accepted (k : Kept batch plan o) {row : Nat} {resolution : Resolution}
    {others : Multiset (Nat × Resolution)} {status : Status} {error : LedgerError}
    (hstarted : o.started = (row, resolution) ::ₘ others)
    (hstatus : resolution.status? plan.policy.timeout = some status) :
    o.ledger.transition row status ≠ .error error := by
  have hpending := k.pending row (by rw [held_of_started hstarted]; simp)
  obtain ⟨ledger, hledger⟩ :=
    Ledger.exists_transition_of_pending hpending (isTerminal_of_status? hstatus)
  rw [hledger]
  simp

theorem step (k : Kept batch plan o) {after : Outline}
    (h : o.Step batch.entries plan after) : Kept batch plan after := by
  cases h with
  | claim _ hremaining _ hledger => exact k.claim hremaining hledger
  | skip hremaining _ herror => exact k.skip hremaining herror
  | stop hcancelled => exact k.stop hcancelled
  | signal hkept => exact k.signal hkept
  | start hqueue hentry hkept => exact k.start hqueue hentry rfl rfl hkept
  | lose hqueue hnone => exact absurd hnone (k.entry_of_queue hqueue)
  | settle hstarted hstatus hledger =>
      apply k.release hstarted
      intro other
      rw [hstatus]
      exact Ledger.get?_of_transition hledger other
  | discard hstarted hstatus herror => exact absurd herror (k.answer_accepted hstarted hstatus)
  | @crash row _ _ hstarted hnone =>
      apply k.release hstarted
      intro other
      rw [hnone]
      split
      · next hrow =>
          rw [hrow]
          exact k.pending row (by rw [held_of_started hstarted]; simp)
      · rfl

end Kept

theorem kept_first (plan : Plan) (batch : Batch) :
    Kept batch plan (first plan batch).outline where
  scanned := ⟨[], batch.validIndices, rfl, rfl, .inl rfl⟩
  nodup_held := Multiset.nodup_zero
  pending := by intro row hrow; cases hrow
  claimed := by intro row hrow; cases hrow
  untouched := fun _ _ => rfl
  records := by intro call hcall; cases hcall
  answers := by intro row resolution h; cases h
  finished := by intro n call hcall; cases hcall

theorem kept_of_history {plan : Plan} {batch : Batch} {claims : List Nat} {m : Moment}
    (h : History batch.entries plan (first plan batch) claims m) :
    Kept batch plan m.outline := by
  induction h with
  | start => exact kept_first plan batch
  | move _ hmove ih => exact ih.step (outline_step hmove)

end Run
end Enrolment

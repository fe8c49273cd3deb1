import Enrolment.Proofs.Run.Custody

/-!
No row is ever submitted twice. A run calls only for rows that it found open, and no row that a
call was made for is ever open again; so the calls of any number of runs, one after the other, are
for different rows. This holds whatever the calls do: also after a run that was cancelled or that a
call took down, and in the middle of a run.
-/

namespace Enrolment
namespace Run

/-- What earlier runs leave behind: the rows they made calls for are not open any more, and the
rows that are not valid still are. -/
structure Spent (entries : List Entry) (past : List Call) (ledger : Ledger) : Prop where
  nodup : (past.map Call.row).Nodup
  closed : ∀ call ∈ past, ledger.get? call.row ≠ some .notSubmitted
  valid : ∀ call ∈ past, ∃ entry, entries[call.row]? = some entry ∧ entry.verdict = .valid ∧
    call.record = entry.record
  passed : ∀ row entry, entries[row]? = some entry → entry.verdict ≠ .valid →
    ledger.get? row = some .notSubmitted

theorem mem_claims_of_call {o : Outline} {call : Call} (h : call ∈ o.calls) :
    call.row ∈ o.claims :=
  List.mem_append_left _ (List.mem_map_of_mem h)

/-- A claimed row is not open: it is held, or its call has been answered. -/
theorem Kept.closed {batch : Batch} {plan : Plan} {o : Outline} (k : Kept batch plan o)
    {row : Nat} (h : row ∈ o.claims) : o.ledger.get? row ≠ some .notSubmitted := by
  by_cases hheld : row ∈ o.held
  · rw [k.pending row hheld]
    simp
  · obtain ⟨n, call, _, _, hrow⟩ := k.exists_call_of_claim h hheld
    rw [hrow, Plan.outcome]
    cases hstatus : (plan.resolution n call.record).status? plan.policy.timeout with
    | none => simp
    | some status =>
        have hterminal := isTerminal_of_status? hstatus
        intro heq
        rw [Option.getD_some, Option.some.injEq] at heq
        rw [heq] at hterminal
        cases hterminal

/-- Whatever a run has done so far, its calls are one more part of the past. -/
theorem Spent.of_kept {batch : Batch} {plan : Plan} {o : Outline} {past : List Call}
    (s : Spent batch.entries past batch.ledger) (k : Kept batch plan o) :
    Spent batch.entries (past ++ o.calls) o.ledger where
  nodup := by
    rw [List.map_append, List.nodup_append]
    refine ⟨s.nodup, k.nodup_claims.of_append_left, ?_⟩
    rintro row hpast _ hnow rfl
    obtain ⟨old, hold, rfl⟩ := List.mem_map.1 hpast
    exact s.closed old hold (k.open_of_claim (List.mem_append_left _ hnow))
  closed := by
    intro call hcall
    rcases List.mem_append.1 hcall with hpast | hnow
    · by_cases hclaimed : call.row ∈ o.claims
      · exact k.closed hclaimed
      · rw [k.untouched call.row hclaimed]
        exact s.closed call hpast
    · exact k.closed (mem_claims_of_call hnow)
  valid := by
    intro call hcall
    rcases List.mem_append.1 hcall with hpast | hnow
    · exact s.valid call hpast
    · obtain ⟨entry, hentry, hvalid⟩ := k.entry_of_claim (mem_claims_of_call hnow)
      obtain ⟨own, hown, hrecord⟩ := k.records call hnow
      obtain rfl : entry = own := Option.some.inj (hentry.symm.trans hown)
      exact ⟨entry, hentry, hvalid, hrecord⟩
  passed := by
    intro row entry hentry hinvalid
    have hclaimed : row ∉ o.claims := by
      intro h
      obtain ⟨own, hown, hvalid⟩ := k.entry_of_claim h
      obtain rfl : entry = own := Option.some.inj (hentry.symm.trans hown)
      exact hinvalid hvalid
    rw [k.untouched row hclaimed]
    exact s.passed row entry hentry hinvalid

theorem spent_ofEntries (entries : List Entry) :
    Spent entries [] (Batch.ofEntries entries).ledger where
  nodup := List.nodup_nil
  closed := by intro call hcall; cases hcall
  valid := by intro call hcall; cases hcall
  passed := by
    intro row entry hentry _
    rw [Batch.ofEntries, Ledger.get?_blank, if_pos (List.getElem?_eq_some_iff.1 hentry).1]

theorem spent_of_mayBecome {entries : List Entry} {accounts : List Account} {batch : Batch}
    (h : (Batch.ofEntries entries).MayBecome accounts batch) :
    batch.entries = entries ∧ Spent entries (accounts.flatMap Account.calls) batch.ledger := by
  induction h with
  | fresh => exact ⟨rfl, spent_ofEntries entries⟩
  | run _ hrun ih =>
      obtain ⟨claims, m, hhistory, _, hleft⟩ := hrun
      obtain ⟨rfl, hspent⟩ := ih
      rw [← (Prod.mk.inj hleft).1, ← (Prod.mk.inj hleft).2, List.flatMap_append,
        List.flatMap_singleton]
      exact ⟨rfl, hspent.of_kept (kept_of_history hhistory)⟩

/-- Only the start of a call adds to the calls, and its row is pending then. -/
theorem calls_of_move {batch : Batch} {plan : Plan} {m next : Moment}
    (k : Kept batch plan m.outline) (h : Move batch.entries plan m next) :
    next.progress.calls = m.progress.calls ∨
      ∃ call, next.progress.calls = m.progress.calls ++ [call] ∧
        m.ledger.get? call.row = some .pending := by
  rcases (outline_step h).calls_eq with hcalls | ⟨call, rest, hqueue, hcalls, _⟩
  · exact .inl hcalls
  · exact .inr ⟨call, hcalls, k.pending _ (by simp [Outline.held, hqueue])⟩

/-- At any moment of any run after any number of runs: no two calls were for one row, each was for
a valid row and with that row's record, a row is pending when its call starts, and no row that is
not valid was ever touched. -/
theorem one_call_for_each_row {entries : List Entry} {accounts : List Account} {batch : Batch}
    {plan : Plan} {claims : List Nat} {m : Moment}
    (hruns : (Batch.ofEntries entries).MayBecome accounts batch)
    (hnow : History entries plan (first plan batch) claims m) :
    ((accounts.flatMap Account.calls ++ m.progress.calls).map Call.row).Nodup ∧
      (∀ call ∈ accounts.flatMap Account.calls ++ m.progress.calls,
        ∃ entry, entries[call.row]? = some entry ∧ entry.verdict = .valid ∧
          call.record = entry.record) ∧
      (∀ next, Move entries plan m next → next.progress.calls = m.progress.calls ∨
        ∃ call, next.progress.calls = m.progress.calls ++ [call] ∧
          m.ledger.get? call.row = some .pending) ∧
      ∀ row entry, entries[row]? = some entry → entry.verdict ≠ .valid →
        m.ledger.get? row = some .notSubmitted := by
  obtain ⟨rfl, hspent⟩ := spent_of_mayBecome hruns
  have k := kept_of_history hnow
  have hall := hspent.of_kept k
  exact ⟨hall.nodup, hall.valid, fun next hmove => calls_of_move k hmove, hall.passed⟩

/-- Each call takes the run down, with two rows claimed. -/
def crashingPlan : Plan where
  policy := ⟨2, .ofSeconds 30⟩
  service := fun _ _ => .atOnce .crashed
  cancellation := .never
  watched := true

def calmPlan : Plan where
  policy := ⟨2, .ofSeconds 30⟩
  service := fun _ _ => .atOnce .created
  cancellation := .never
  watched := false

/-- The first run is taken down by its first call and leaves two rows pending; the second run
makes a call for the row that is left, and the row that is not valid is never touched. -/
theorem one_call_for_each_row_after_crash :
    [(Batch.small.run crashingPlan).2.calls.map Call.row,
        ((Batch.small.run crashingPlan).1.run calmPlan).2.calls.map Call.row] = [[0], [3]] ∧
      (([(Batch.small.run crashingPlan).2].flatMap Account.calls ++
        ((Batch.small.run crashingPlan).1.run calmPlan).2.calls).map Call.row).Nodup ∧
      ((Batch.small.run crashingPlan).1.run calmPlan).1.status? 1 = some .notSubmitted := by
  refine ⟨by decide +kernel, ?_⟩
  obtain ⟨claims, hnow⟩ := exists_history_last Batch.small.entries calmPlan
    (first calmPlan (Batch.small.run crashingPlan).1)
  have h := one_call_for_each_row (.run .fresh (Batch.small.mayRun_run crashingPlan)) hnow
  exact ⟨h.1, h.2.2.2 1 ⟨⟨3, "", "viewer", none, none⟩, .invalid ["identifier required"]⟩ rfl
    (by decide)⟩

end Run
end Enrolment

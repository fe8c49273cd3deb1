import Enrolment.Proofs.Run.Crowd

/-!
Who owns a row when several runs work on one batch at the same time. Whatever the order of their
moves, a row is claimed by one run at most, and this run enters what its own call gave: the ledger
never refuses it, nobody else has a hand in it, and it stays. A run that comes too late for a row
passes on to the next and leaves no trace.
-/

namespace Enrolment
namespace Run

section
variable {ι : Type} {batch : Batch} {plans : ι → Plan} {log : List (Change ι)} {c : Crowd ι}
variable {run : ι} {row : Nat} {status : Status}

theorem Fate.now_ne {before now : Option Status} (f : Fate row before now log)
    (h : log ≠ []) : now ≠ some .notSubmitted ∧ before = some .notSubmitted := by
  cases f with
  | left => exact absurd rfl h
  | claimed _ hbefore => exact ⟨by simp, hbefore⟩
  | ended _ hbefore hterminal =>
      refine ⟨?_, hbefore⟩
      intro hopen
      obtain rfl := Option.some.inj hopen
      cases hterminal

theorem filter_row_ne_nil {change : Change ι} (h : change ∈ log) :
    (log.filter fun other => other.row = change.row) ≠ [] :=
  List.ne_nil_of_mem (List.mem_filter.2 ⟨h, decide_eq_true rfl⟩)

/-- A row that somebody changed was open, and is not open any more. -/
theorem Orderly.changed (s : Orderly batch plans log c) {change : Change ι} (h : change ∈ log) :
    c.ledger.get? change.row ≠ some .notSubmitted ∧
      batch.ledger.get? change.row = some .notSubmitted :=
  (s.fate change.row).now_ne (filter_row_ne_nil h)

/-- Some run claimed the row that a change is about. -/
theorem Orderly.exists_claim (s : Orderly batch plans log c) {change : Change ι}
    (h : change ∈ log) : ∃ run, change.row ∈ (c.outline run).claims := by
  have hclaim : ∀ {row : Nat} {before now : Option Status} {own : List (Change ι)},
      Fate row before now own → own ≠ [] → ∃ run, (⟨run, row, .pending⟩ : Change ι) ∈ own := by
    intro row before now own f hown
    cases f with
    | left => exact absurd rfl hown
    | claimed run _ | ended run _ _ => exact ⟨run, by simp⟩
  obtain ⟨run, hrun⟩ := hclaim (s.fate change.row) (filter_row_ne_nil h)
  exact ⟨run, (s.claimed run change.row).2 (List.mem_filter.1 hrun).1⟩

theorem Orderly.mem_eligible (s : Orderly batch plans log c) {change : Change ι}
    (h : change ∈ log) : change.row ∈ batch.eligible := by
  obtain ⟨run, hrun⟩ := s.exists_claim h
  exact List.mem_filter.2 ⟨Batch.mem_validIndices_iff.2 ((s.kept run).entry_of_claim hrun),
    Batch.isOpen_iff.2 (s.changed h).2⟩

/-- The status that a call under way is going to give is one that the ledger takes. -/
theorem Orderly.answer_accepted (s : Orderly batch plans log c) {resolution : Resolution}
    (h : (row, resolution) ∈ (c.progress run).started)
    (hstatus : resolution.status? (plans run).policy.timeout = some status) :
    ∃ ledger, c.ledger.transition row status = .ok ledger := by
  have hheld : row ∈ (c.outline run).held :=
    Multiset.mem_add.2 (.inr (Multiset.mem_map.2 ⟨(row, resolution), h, rfl⟩))
  exact Ledger.exists_transition_of_pending ((s.kept run).pending row hheld)
    (isTerminal_of_status? hstatus)

theorem mem_held_of_call {o : Outline} {call : Call} {plan : Plan} (k : Kept batch plan o)
    (hcall : call ∈ o.calls) (hheld : call.row ∈ o.held) : call.row ∈ o.started.map Prod.fst := by
  rcases Multiset.mem_add.1 hheld with hqueue | hstarted
  · exact absurd rfl ((List.nodup_append.1 k.nodup_claims).2.2 _ (List.mem_map_of_mem hcall) _
      (Multiset.mem_coe.1 hqueue))
  · exact hstarted

/-- A call that is not under way any more has been entered, by its own run and once. -/
theorem Orderly.answer_entered (s : Orderly batch plans log c) {n : Nat} {call : Call}
    (hcall : (c.progress run).calls[n]? = some call)
    (hstatus : ((plans run).resolution n call.record).status? (plans run).policy.timeout =
      some status)
    (hover : call.row ∉ (c.progress run).calling) :
    c.ledger.get? call.row = some status ∧ (log.filter fun change => change.row = call.row) =
      [⟨run, call.row, .pending⟩, ⟨run, call.row, status⟩] := by
  have k := s.kept run
  have hmem : call ∈ (c.outline run).calls := List.mem_of_getElem? hcall
  have hfree : call.row ∉ (c.outline run).held := by
    intro hheld
    apply hover
    rw [← Multiset.mem_coe, Progress.coe_calling]
    exact mem_held_of_call k hmem hheld
  have hnow : c.ledger.get? call.row = some status := by
    have hfinished := k.finished n call hcall hfree
    rwa [Plan.outcome, hstatus, Option.getD_some] at hfinished
  have hne : status ≠ .pending := by
    rintro rfl
    cases isTerminal_of_status? hstatus
  have hfate := s.fate call.row
  rw [hnow] at hfate
  obtain ⟨_, hlog⟩ := hfate.of_claim (s.mem_log_of_claim (mem_claims_of_call hmem))
  rw [if_neg hne] at hlog
  exact ⟨hnow, hlog⟩

theorem claim_of_refused {m : Moment} (plan : Plan) (rest : List Nat)
    (h : m.ledger.get? row ≠ some .notSubmitted) :
    claim plan m row rest = { m with progress := { m.progress with remaining := rest } } := by
  obtain ⟨error, herror⟩ := Ledger.exists_refused h
  rw [claim, herror]

theorem Crowd.History.leadsTo [DecidableEq ι] {entries : List Entry} {final : Crowd ι}
    (h : Crowd.History entries plans c log final) : c.ledger.LeadsTo final.ledger := by
  induction h with
  | start => exact .refl
  | move _ _ hmove ih => exact ih.trans hmove.leadsTo

end

/-- Any number of runs of one batch, of whatever plans, at any moment, with the moves that they made
in any order. Only rows that were open are changed, and the changes of one row are those of one run:
it claims the row and perhaps enters an answer. The ledger does not refuse the answer of any call
under way; a call that is not under way any more, unless it took its run down, has been entered,
with the status that it gave, once. What is final stays final. And a run that tries to claim a row
that has been changed is turned away: ledger, updates and all else are as before, only that it goes
on to the next row. -/
theorem rows_have_one_owner {ι : Type} [DecidableEq ι] {batch : Batch} {plans : ι → Plan}
    {log : List (Change ι)} {c : Crowd ι}
    (h : Crowd.History batch.entries plans (Crowd.first plans batch) log c) :
    (∀ change ∈ log, change.row ∈ batch.eligible) ∧
      (∀ first ∈ log, ∀ second ∈ log, first.row = second.row → first.run = second.run) ∧
      (∀ row, Fate row (batch.ledger.get? row) (c.ledger.get? row)
        (log.filter fun change => change.row = row)) ∧
      (∀ run row resolution status, (row, resolution) ∈ (c.progress run).started →
        resolution.status? (plans run).policy.timeout = some status →
        ∃ ledger, c.ledger.transition row status = .ok ledger) ∧
      (∀ run n call status, (c.progress run).calls[n]? = some call →
        ((plans run).resolution n call.record).status? (plans run).policy.timeout = some status →
        call.row ∉ (c.progress run).calling →
        c.ledger.get? call.row = some status ∧ (log.filter fun change => change.row = call.row) =
          [⟨run, call.row, .pending⟩, ⟨run, call.row, status⟩]) ∧
      (∀ later final, Crowd.History batch.entries plans c later final → ∀ row status,
        c.ledger.get? row = some status → status.isTerminal = true →
        final.ledger.get? row = some status) ∧
      ∀ change ∈ log, ∀ run rest, claim (plans run) (c.moment run) change.row rest =
        ⟨c.ledger, { c.progress run with remaining := rest }⟩ := by
  have s := orderly_of_history h
  refine ⟨fun _ => s.mem_eligible, ?_, s.fate, fun _ _ _ _ => s.answer_accepted,
    fun _ _ _ _ => s.answer_entered, fun _ _ hlater _ _ => hlater.leadsTo.get?_of_terminal, ?_⟩
  · intro first hfirst second hsecond hrow
    apply (s.fate first.row).run_eq
    · exact List.mem_filter.2 ⟨hfirst, decide_eq_true rfl⟩
    · exact List.mem_filter.2 ⟨hsecond, decide_eq_true hrow.symm⟩
  · intro change hchange run rest
    exact claim_of_refused (plans run) rest (s.changed hchange).1

/-- Two runs with one slot each: for one of them all users are created, for the other none. -/
def rivals : Bool → Plan
  | false => { calmPlan with policy := ⟨1, .ofSeconds 30⟩ }
  | true =>
      { calmPlan with
        policy := ⟨1, .ofSeconds 30⟩
        service := fun _ _ => .atOnce (.rejected (some 400) "no") }

/-- Both runs look at the first row. The one that comes too late for it takes the next. -/
def rivalry : List (Change Bool) × Crowd Bool :=
  Crowd.follow Batch.small.entries rivals [false, true, true, true, false, true, false]
    ([], Crowd.first rivals Batch.small)

theorem rows_have_one_owner_of_rivals :
    Crowd.History Batch.small.entries rivals (Crowd.first rivals Batch.small) rivalry.1 rivalry.2 ∧
      rivalry.1 = [⟨false, 0, .pending⟩, ⟨true, 2, .pending⟩,
        ⟨true, 2, .failed ⟨.rejected, "no"⟩⟩, ⟨false, 0, .succeeded⟩] ∧
      (∀ first ∈ rivalry.1, ∀ second ∈ rivalry.1,
        first.row = second.row → first.run = second.run) ∧
      rivalry.2.ledger.get? 0 = some .succeeded ∧
      claim (rivals true) (rivalry.2.moment true) 0 [3] =
        ⟨rivalry.2.ledger, { rivalry.2.progress true with remaining := [3] }⟩ := by
  have hhistory : Crowd.History Batch.small.entries rivals (Crowd.first rivals Batch.small)
      rivalry.1 rivalry.2 := Crowd.history_follow _ .start
  have hlog : rivalry.1 = [⟨false, 0, .pending⟩, ⟨true, 2, .pending⟩,
      ⟨true, 2, .failed ⟨.rejected, "no"⟩⟩, ⟨false, 0, .succeeded⟩] := by decide +kernel
  obtain ⟨_, howner, _, _, _, _, hlost⟩ := rows_have_one_owner hhistory
  refine ⟨hhistory, hlog, howner, by decide +kernel, ?_⟩
  exact hlost ⟨false, 0, .pending⟩ (by rw [hlog]; simp) true [3]

end Run
end Enrolment

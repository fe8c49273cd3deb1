import Enrolment.Proofs.Run.Log
import Enrolment.Proofs.Run.Once
import Enrolment.Proofs.Run.Room

/-!
Several runs of one batch at the same time. They share the ledger, each keeps its progress to
itself, and their moves come in any order; a run that starts later is one that has not moved yet.
To each run the others are as if the rows they took had never been open. So what is true of a run
by itself is true of each run in a crowd, on the batch as that run would have found it.

No row has two owners: the run that turned it pending is the one that enters its answer, once.
-/

namespace Enrolment

namespace Ledger

/-- The ledger with the given rows open again. -/
def reopen (ledger : Ledger) (rows : List Nat) : Ledger :=
  ⟨ledger.statuses.mapIdx fun row status => if row ∈ rows then .notSubmitted else status⟩

theorem get?_reopen (ledger : Ledger) (rows : List Nat) (row : Nat) :
    (ledger.reopen rows).get? row =
      (ledger.get? row).map fun status => if row ∈ rows then .notSubmitted else status := by
  simp [get?, reopen, List.getElem?_mapIdx]

end Ledger

namespace Run

/-- A change of the ledger, with the run that made it. -/
structure Change (ι : Type) where
  run : ι
  row : Nat
  status : Status
  deriving DecidableEq

/-- The rows whose status is another than before, as changes by the given run. -/
def changes {ι : Type} (run : ι) (before after : Ledger) : List (Change ι) :=
  ((List.range after.size).filter fun row => after.get? row ≠ before.get? row).filterMap
    fun row => (after.get? row).map (Change.mk run row)

structure Crowd (ι : Type) where
  ledger : Ledger
  progress : ι → Progress

namespace Crowd

section
variable {ι : Type} [DecidableEq ι]

/-- The crowd as one of its runs knows it. -/
def moment (c : Crowd ι) (run : ι) : Moment :=
  ⟨c.ledger, c.progress run⟩

def outline (c : Crowd ι) (run : ι) : Outline :=
  (c.moment run).outline

/-- The crowd when one of its runs has come to the given moment. -/
def after (c : Crowd ι) (run : ι) (m : Moment) : Crowd ι :=
  ⟨m.ledger, Function.update c.progress run m.progress⟩

/-- All runs before their first move. -/
def first (plans : ι → Plan) (batch : Batch) : Crowd ι :=
  ⟨batch.ledger, fun run => (Run.first (plans run) batch).progress⟩

/-- The states that a crowd can come to, each with all the changes of the ledger on the way. -/
inductive History (entries : List Entry) (plans : ι → Plan) (start : Crowd ι) :
    List (Change ι) → Crowd ι → Prop where
  | start : History entries plans start [] start
  | move {log : List (Change ι)} {c : Crowd ι} {next : Moment} (run : ι) :
      History entries plans start log c → Move entries (plans run) (c.moment run) next →
      History entries plans start (log ++ changes run c.ledger next.ledger) (c.after run next)

/-- Let the runs take their own steps in the given order. A run that is over is passed over. -/
def follow (entries : List Entry) (plans : ι → Plan) :
    List ι → List (Change ι) × Crowd ι → List (Change ι) × Crowd ι
  | [], (log, c) => (log, c)
  | run :: schedule, (log, c) =>
      match step entries (plans run) (c.moment run) with
      | none => follow entries plans schedule (log, c)
      | some next =>
          follow entries plans schedule
            (log ++ changes run c.ledger next.ledger, c.after run next)

theorem history_follow {entries : List Entry} {plans : ι → Plan} {start c : Crowd ι}
    {log : List (Change ι)} (schedule : List ι) (h : History entries plans start log c) :
    History entries plans start (follow entries plans schedule (log, c)).1
      (follow entries plans schedule (log, c)).2 := by
  induction schedule generalizing log c with
  | nil => exact h
  | cons run schedule ih =>
      rw [follow]
      split
      · exact ih h
      · next next hstep => exact ih (h.move run (.own hstep))

@[simp] theorem moment_after_self (c : Crowd ι) (run : ι) (m : Moment) :
    (c.after run m).moment run = m := by
  simp [moment, after]

theorem outline_after_of_ne (c : Crowd ι) {run other : ι} (m : Moment) (h : other ≠ run) :
    (c.after run m).outline other = { c.outline other with ledger := m.ledger } := by
  simp [outline, moment, after, Function.update_of_ne h, Moment.outline]

end

end Crowd

section
variable {ι : Type} {before after : Ledger} {row : Nat} {status : Status}

theorem changes_self (run : ι) (ledger : Ledger) : changes run ledger ledger = [] := by
  simp [changes]

theorem changes_of_transition (run : ι) (h : before.transition row status = .ok after) :
    changes run before after = [⟨run, row, status⟩] := by
  have hget := Ledger.get?_of_transition h
  obtain ⟨current, hcurrent, hallows, _⟩ := Ledger.transition_eq_ok_iff.1 h
  have hne : status ≠ current := by
    rintro rfl
    cases status <;> cases hallows
  have hchanged : ∀ other, (decide (after.get? other ≠ before.get? other)) = (other == row) := by
    intro other
    by_cases hother : other = row
    · subst hother
      simp [hget, hcurrent, hne]
    · simp [hget, hother]
  have hmem : row ∈ List.range after.size := by
    have hrow : after.get? row = some status := by rw [hget, if_pos rfl]
    exact List.mem_range.2 (List.getElem?_eq_some_iff.1 hrow).1
  simp only [changes, hchanged, List.filter_beq]
  rw [List.count_eq_one_of_mem List.nodup_range hmem]
  simp [hget]

end

/-- The batch as a run would have found it if all that the others did had been done before. -/
def found (batch : Batch) (o : Outline) : Batch :=
  { batch with ledger := o.ledger.reopen o.claims }

section
variable {batch : Batch} {plan : Plan} {o after : Outline}

theorem get?_found (batch : Batch) (o : Outline) (row : Nat) :
    (found batch o).ledger.get? row =
      (o.ledger.get? row).map fun status => if row ∈ o.claims then .notSubmitted else status :=
  Ledger.get?_reopen o.ledger o.claims row

theorem found_eq {other : Batch} (hentries : other.entries = batch.entries)
    (h : ∀ row, (found batch o).ledger.get? row = other.ledger.get? row) :
    found batch o = other :=
  Batch.ext_status? hentries.symm h

/-- What a run does itself makes no difference to how it would have found the batch. -/
theorem Kept.found_step (k : Kept (found batch o) plan o) (h : o.Step batch.entries plan after) :
    found batch after = found batch o := by
  refine found_eq rfl fun other => ?_
  rcases k.ledger_step h with ⟨hledger, hclaims⟩ | ⟨row, hledger, hclaims⟩ |
    ⟨row, status, hheld, _, hledger, hclaims⟩
  · rw [get?_found, get?_found, hledger, hclaims]
  · rw [get?_found, get?_found, Ledger.get?_of_transition hledger, hclaims]
    by_cases hother : other = row
    · simp [hother, Ledger.get?_of_claim hledger]
    · simp [hother]
  · rw [get?_found, get?_found, Ledger.get?_of_transition hledger, hclaims]
    by_cases hother : other = row
    · simp [hother, k.pending row hheld, k.claimed row hheld]
    · simp [hother]

/-- A change of a row that the run has not claimed is to the run as if it had always been. -/
theorem Kept.frame (k : Kept (found batch o) plan o) {row : Nat} {status : Status}
    {ledger : Ledger} (hrow : row ∉ o.claims) (hstatus : status ≠ .notSubmitted)
    (hledger : o.ledger.transition row status = .ok ledger) :
    Kept (found batch { o with ledger }) plan { o with ledger } := by
  have hget := Ledger.get?_of_transition hledger
  have hclaimed : ∀ other ∈ o.claims, ledger.get? other = o.ledger.get? other := by
    intro other hother
    rw [hget, if_neg]
    rintro rfl
    exact hrow hother
  have hfound : ∀ other, (found batch { o with ledger }).ledger.get? other =
      if other = row then some status else (found batch o).ledger.get? other := by
    intro other
    rw [get?_found, get?_found]
    change (ledger.get? other).map (fun status => if other ∈ o.claims then _ else status) = _
    rw [hget]
    by_cases hother : other = row
    · simp [hother, hrow]
    · simp [hother]
  refine ⟨?_, k.nodup_held, ?_, k.claimed, ?_, k.records, k.answers, ?_⟩
  · obtain ⟨seen, rest, hsplit, hclaims, hrest⟩ := k.scanned
    refine ⟨seen, rest, hsplit, ?_, hrest⟩
    change o.claims = _
    rw [hclaims]
    apply List.filter_congr
    intro other hother
    rw [Bool.eq_iff_iff, Batch.isOpen_iff, Batch.isOpen_iff, hfound]
    split
    · next hsame =>
        -- The run has looked at the row and not claimed it, so it was taken before.
        rw [hsame] at hother ⊢
        rw [hclaims] at hrow
        have hclosed : (found batch o).ledger.get? row ≠ some .notSubmitted := by
          intro hopen
          exact hrow (List.mem_filter.2 ⟨hother, Batch.isOpen_iff.2 hopen⟩)
        simp [hstatus, hclosed]
    · rfl
  · intro other hother
    change ledger.get? other = _
    rw [hclaimed other (k.claimed other hother)]
    exact k.pending other hother
  · intro other hother
    change ledger.get? other = _
    rw [get?_found]
    simp [show other ∉ Outline.claims { o with ledger } from hother]
  · intro n call hcall hfree
    change ledger.get? call.row = _
    rw [hclaimed call.row (mem_claims_of_call (List.mem_of_getElem? hcall))]
    exact k.finished n call hcall hfree

theorem kept_found_first (plan : Plan) (batch : Batch) :
    Kept (found batch (first plan batch).outline) plan (first plan batch).outline := by
  have hfound : found batch (first plan batch).outline = batch := by
    refine found_eq rfl fun row => ?_
    rw [get?_found]
    exact Option.map_id'
  rw [hfound]
  exact kept_first plan batch

end

/-- What the changes of one row can be, with the status that it was found with and the one that it
has: there are none, or one run claimed the row and perhaps entered its answer. -/
inductive Fate {ι : Type} (row : Nat) (before : Option Status) :
    Option Status → List (Change ι) → Prop where
  | left : Fate row before before []
  | claimed (run : ι) : before = some .notSubmitted →
      Fate row before (some .pending) [⟨run, row, .pending⟩]
  | ended (run : ι) {status : Status} : before = some .notSubmitted → status.isTerminal = true →
      Fate row before (some status) [⟨run, row, .pending⟩, ⟨run, row, status⟩]

section
variable {ι : Type} {row : Nat} {before now : Option Status} {log : List (Change ι)}
variable {run : ι} {status : Status}

theorem Fate.run_eq (f : Fate row before now log) {first second : Change ι}
    (hfirst : first ∈ log) (hsecond : second ∈ log) : first.run = second.run := by
  cases f with
  | left => cases hfirst
  | claimed run _ =>
      rw [List.mem_singleton.1 hfirst, List.mem_singleton.1 hsecond]
  | ended run _ _ =>
      simp only [List.mem_cons, List.not_mem_nil, or_false] at hfirst hsecond
      rcases hfirst with rfl | rfl <;> rcases hsecond with rfl | rfl <;> rfl

/-- An open row has had no changes. -/
theorem Fate.claim (f : Fate row before (some .notSubmitted) log) (run : ι) :
    Fate row before (some .pending) (log ++ [⟨run, row, .pending⟩]) := by
  generalize hnow : some Status.notSubmitted = now at f
  cases f with
  | left => exact .claimed run hnow.symm
  | claimed _ _ => cases hnow
  | ended _ _ hterminal =>
      obtain rfl := Option.some.inj hnow
      cases hterminal

/-- A pending row that a run has claimed has had no other change. -/
theorem Fate.settle (f : Fate row before (some .pending) log)
    (hclaim : ⟨run, row, .pending⟩ ∈ log) (hstatus : status.isTerminal = true) :
    Fate row before (some status) (log ++ [⟨run, row, status⟩]) := by
  generalize hnow : some Status.pending = now at f
  cases f with
  | left => cases hclaim
  | claimed own hbefore =>
      obtain rfl : run = own := congrArg Change.run (List.mem_singleton.1 hclaim)
      exact .ended run hbefore hstatus
  | ended _ _ hterminal =>
      obtain rfl := Option.some.inj hnow
      cases hterminal

/-- The changes of a row that the given run has claimed. -/
theorem Fate.of_claim (f : Fate row before (some status) log)
    (hclaim : ⟨run, row, .pending⟩ ∈ log) : before = some .notSubmitted ∧
      log = if status = .pending then [⟨run, row, .pending⟩]
        else [⟨run, row, .pending⟩, ⟨run, row, status⟩] := by
  generalize hnow : some status = now at f
  cases f with
  | left => cases hclaim
  | claimed own hbefore =>
      obtain rfl : run = own := congrArg Change.run (List.mem_singleton.1 hclaim)
      obtain rfl := Option.some.inj hnow
      exact ⟨hbefore, rfl⟩
  | @ended own other hbefore hterminal =>
      obtain rfl := Option.some.inj hnow
      have hne : status ≠ .pending := by
        rintro rfl
        cases hterminal
      simp only [List.mem_cons, List.not_mem_nil, or_false, Change.mk.injEq, hne.symm, and_false,
        and_true] at hclaim
      rw [hclaim, if_neg hne]
      exact ⟨hbefore, rfl⟩

end

/-- What is true of a crowd at any moment: each run is in order on the batch as it would have found
it, each row has a fate, and the claims in the log are those of the runs. -/
structure Orderly {ι : Type} (batch : Batch) (plans : ι → Plan) (log : List (Change ι))
    (c : Crowd ι) : Prop where
  kept : ∀ run, Kept (found batch (c.outline run)) (plans run) (c.outline run)
  fate : ∀ row, Fate row (batch.ledger.get? row) (c.ledger.get? row)
    (log.filter fun change => change.row = row)
  claimed : ∀ run row, row ∈ (c.outline run).claims ↔ ⟨run, row, .pending⟩ ∈ log

section
variable {ι : Type} {batch : Batch} {plans : ι → Plan} {log : List (Change ι)} {c : Crowd ι}
variable {run : ι} {row : Nat} {status : Status} {next : Moment}

theorem orderly_first (plans : ι → Plan) (batch : Batch) :
    Orderly batch plans [] (Crowd.first plans batch) where
  kept run := kept_found_first (plans run) batch
  fate _ := .left
  claimed run row := by
    constructor
    · intro hrow
      cases hrow
    · intro hlog
      cases hlog

theorem Orderly.mem_log_of_claim (s : Orderly batch plans log c)
    (h : row ∈ (c.outline run).claims) :
    ⟨run, row, .pending⟩ ∈ log.filter fun change => change.row = row :=
  List.mem_filter.2 ⟨(s.claimed run row).1 h, decide_eq_true rfl⟩

/-- No row is claimed by two runs. -/
theorem Orderly.run_eq (s : Orderly batch plans log c) {other : ι}
    (h : row ∈ (c.outline run).claims) (hother : row ∈ (c.outline other).claims) : run = other :=
  (s.fate row).run_eq (s.mem_log_of_claim h) (s.mem_log_of_claim hother)

/-- The fates after a change that goes on with the fate of its row. -/
theorem Orderly.fate_after (s : Orderly batch plans log c) {ledger : Ledger}
    (hledger : c.ledger.transition row status = .ok ledger)
    (hrow : Fate row (batch.ledger.get? row) (some status)
      (log.filter (fun change => change.row = row) ++ [⟨run, row, status⟩])) (other : Nat) :
    Fate other (batch.ledger.get? other) (ledger.get? other)
      ((log ++ [(⟨run, row, status⟩ : Change ι)]).filter fun change => change.row = other) := by
  rw [Ledger.get?_of_transition hledger, List.filter_append]
  by_cases hother : other = row
  · subst hother
    simpa using hrow
  · simpa [hother, Ne.symm hother] using s.fate other

variable [DecidableEq ι]

/-- The runs that do not move stay in order, if the row that changes is none of theirs. -/
theorem Orderly.kept_after (s : Orderly batch plans log c)
    (h : Move batch.entries (plans run) (c.moment run) next)
    (hothers : ∀ other, other ≠ run → next.ledger = c.ledger ∨
      ∃ row status, row ∉ (c.outline other).claims ∧ status ≠ .notSubmitted ∧
        c.ledger.transition row status = .ok next.ledger) (other : ι) :
    Kept (found batch ((c.after run next).outline other)) (plans other)
      ((c.after run next).outline other) := by
  by_cases hother : other = run
  · subst hother
    have hstep := outline_step h
    rw [Crowd.outline, Crowd.moment_after_self, (s.kept other).found_step hstep]
    exact (s.kept other).step hstep
  · rw [c.outline_after_of_ne next hother]
    rcases hothers other hother with hledger | ⟨row, status, hrow, hstatus, hledger⟩
    · rw [hledger]
      exact s.kept other
    · exact (s.kept other).frame hrow hstatus hledger

theorem Orderly.claimed_after (s : Orderly batch plans log c) {new : List (Change ι)}
    {rows : List Nat} (hclaims : next.outline.claims = (c.outline run).claims ++ rows)
    (hnew : ∀ other row, (⟨other, row, .pending⟩ : Change ι) ∈ new ↔ other = run ∧ row ∈ rows)
    (other : ι) (row : Nat) : row ∈ ((c.after run next).outline other).claims ↔
      ⟨other, row, .pending⟩ ∈ log ++ new := by
  rw [List.mem_append, ← s.claimed other row, hnew]
  by_cases hother : other = run
  · subst hother
    rw [Crowd.outline, Crowd.moment_after_self, hclaims, List.mem_append]
    simp
  · rw [c.outline_after_of_ne next hother]
    simp [hother, Outline.claims]

theorem Orderly.step (s : Orderly batch plans log c)
    (h : Move batch.entries (plans run) (c.moment run) next) :
    Orderly batch plans (log ++ changes run c.ledger next.ledger) (c.after run next) := by
  rcases (s.kept run).ledger_step (outline_step h) with ⟨hledger, hclaims⟩ |
    ⟨row, hledger, hclaims⟩ | ⟨row, status, hheld, hterminal, hledger, hclaims⟩
  · have hledger : next.ledger = c.ledger := hledger
    have hnone : next.outline.claims = (c.outline run).claims ++ [] := by
      rw [hclaims, List.append_nil]
    rw [hledger, changes_self]
    refine ⟨s.kept_after h fun _ _ => .inl hledger, ?_, s.claimed_after hnone (by simp)⟩
    intro row
    change Fate row _ (next.ledger.get? row) _
    rw [hledger, List.append_nil]
    exact s.fate row
  · have hledger : c.ledger.transition row .pending = .ok next.ledger := hledger
    have hopen := Ledger.get?_of_claim hledger
    rw [changes_of_transition run hledger]
    refine ⟨s.kept_after h ?_, s.fate_after hledger ?_, s.claimed_after hclaims (by simp)⟩
    · intro other _
      -- A row that another run has claimed is not open.
      have hrow : row ∉ (c.outline other).claims := fun hrow => (s.kept other).closed hrow hopen
      exact .inr ⟨row, .pending, hrow, by simp, hledger⟩
    · have hfate := s.fate row
      rw [hopen] at hfate
      exact hfate.claim run
  · have hledger : c.ledger.transition row status = .ok next.ledger := hledger
    have hclaimed := (s.kept run).claimed row hheld
    have hpending : c.ledger.get? row = some .pending := (s.kept run).pending row hheld
    have hnone : next.outline.claims = (c.outline run).claims ++ [] := by
      rw [hclaims, List.append_nil]
    have hne : status ≠ .pending ∧ status ≠ .notSubmitted := by
      constructor <;> rintro rfl <;> cases hterminal
    rw [changes_of_transition run hledger]
    refine ⟨s.kept_after h ?_, s.fate_after hledger ?_,
      s.claimed_after hnone (by simp [hne.1.symm])⟩
    · intro other hother
      have hrow : row ∉ (c.outline other).claims := fun hrow => hother (s.run_eq hrow hclaimed)
      exact .inr ⟨row, status, hrow, hne.2, hledger⟩
    · have hfate := s.fate row
      rw [hpending] at hfate
      exact hfate.settle (s.mem_log_of_claim hclaimed) hterminal

theorem orderly_of_history
    (h : Crowd.History batch.entries plans (Crowd.first plans batch) log c) :
    Orderly batch plans log c := by
  induction h with
  | start => exact orderly_first plans batch
  | move run _ hmove ih => exact ih.step hmove

end

end Run
end Enrolment

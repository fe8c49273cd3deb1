import Mathlib.Data.List.Chain
import Enrolment.Proofs.Run.Audience
import Enrolment.Proofs.Run.Order

/-!
The published updates as a log of the run. Entered one after the other into the ledger that the run
found they are all accepted, and they give the ledger that it has made of it by then; for each row
they tell its life as far as it has come. Whether anybody reads them makes no difference.
-/

namespace Enrolment

namespace Ledger
open Run

/-- Enter published changes one after the other, until one is refused. -/
def replay (ledger : Ledger) (updates : List Update) : Except LedgerError Ledger :=
  updates.foldlM (fun ledger update => ledger.transition update.row update.status) ledger

theorem replay_cons_eq_ok_iff {ledger after : Ledger} {update : Update} {updates : List Update} :
    ledger.replay (update :: updates) = .ok after ↔
      ∃ middle, ledger.transition update.row update.status = .ok middle ∧
        middle.replay updates = .ok after := by
  rw [replay, List.foldlM_cons]
  cases ledger.transition update.row update.status with
  | error error => simp [bind, Except.bind]
  | ok middle => simp [bind, Except.bind, replay]

theorem replay_concat {ledger middle after : Ledger} {updates : List Update} {row : Nat}
    {status : Status} (h : ledger.replay updates = .ok middle)
    (hnext : middle.transition row status = .ok after) :
    ledger.replay (updates ++ [⟨row, status⟩]) = .ok after := by
  induction updates generalizing ledger with
  | nil =>
      obtain rfl : ledger = middle := Except.ok.inj h
      exact replay_cons_eq_ok_iff.2 ⟨after, hnext, rfl⟩
  | cons update updates ih =>
      obtain ⟨next, hupdate, hrest⟩ := replay_cons_eq_ok_iff.1 h
      exact replay_cons_eq_ok_iff.2 ⟨next, hupdate, ih hrest⟩

end Ledger

namespace Run

/-- What is published for a row, in order. -/
def published (updates : List Update) (row : Nat) : List Status :=
  (updates.filter fun update => update.row = row).map Update.status

/-- The updates of one row are moves that the life of a submission allows, each from where the one
before it left the row. -/
theorem published_of_replay {ledger after : Ledger} {updates : List Update} {row : Nat}
    {status : Status} (h : ledger.replay updates = .ok after)
    (hrow : ledger.get? row = some status) :
    (status :: published updates row).IsChain (fun current next => current.allows next = true) ∧
      (status :: published updates row).getLast? = after.get? row := by
  induction updates generalizing ledger status with
  | nil =>
      obtain rfl : ledger = after := Except.ok.inj h
      exact ⟨List.isChain_singleton _, hrow.symm⟩
  | cons update updates ih =>
      obtain ⟨middle, hupdate, hrest⟩ := Ledger.replay_cons_eq_ok_iff.1 h
      have hmiddle := Ledger.get?_of_transition hupdate row
      by_cases hown : row = update.row
      · rw [if_pos hown] at hmiddle
        obtain ⟨current, hcurrent, hallows, _⟩ := Ledger.transition_eq_ok_iff.1 hupdate
        obtain rfl : status = current := by
          rw [hown] at hrow
          exact Option.some.inj (hrow.symm.trans hcurrent)
        have hpublished : published (update :: updates) row =
            update.status :: published updates row := by simp [published, hown]
        obtain ⟨hchain, hlast⟩ := ih hrest hmiddle
        rw [hpublished, List.getLast?_cons_cons]
        exact ⟨List.isChain_cons_cons.2 ⟨hallows, hchain⟩, hlast⟩
      · rw [if_neg hown] at hmiddle
        have hpublished : published (update :: updates) row = published updates row := by
          simp [published, Ne.symm hown]
        rw [hpublished]
        exact ih hrest (hmiddle.trans hrow)

theorem published_eq_nil {updates : List Update} {row : Nat}
    (h : ∀ update ∈ updates, update.row ≠ row) : published updates row = [] := by
  have hnone : (updates.filter fun update => update.row = row) = [] := by
    rw [List.filter_eq_nil_iff]
    intro update hupdate
    simpa using h update hupdate
  rw [published, hnone, List.map_nil]

section
variable {batch : Batch} {plan : Plan} {o after : Outline} {claims : List Nat} {m : Moment}

/-- A run publishes nothing of a row that it has not claimed. -/
theorem claimed_step (k : Kept batch plan o) (h : o.Step batch.entries plan after)
    (hclaimed : ∀ update ∈ o.updates, update.row ∈ o.claims) :
    ∀ update ∈ after.updates, update.row ∈ after.claims := by
  have hclaims := k.claims_step h
  have hearlier : ∀ update ∈ o.updates, update.row ∈ after.claims := by
    intro update hupdate
    rw [hclaims]
    exact List.mem_append_left _ (hclaimed update hupdate)
  have hnoted : ∀ row status, row ∈ after.claims → ∀ update ∈ o.noted plan row status,
      update.row ∈ after.claims := by
    intro row status hrow update hupdate
    rw [Outline.noted] at hupdate
    split at hupdate
    · rcases List.mem_append.1 hupdate with hupdate | hupdate
      · exact hearlier update hupdate
      · rw [List.mem_singleton.1 hupdate]
        exact hrow
    · exact hearlier update hupdate
  cases h with
  | @claim row _ _ _ _ _ _ => exact hnoted row .pending (by simp [Outline.claims])
  | @settle row _ _ status _ hstarted _ _ =>
      apply hnoted row status
      rw [hclaims]
      exact List.mem_append_left _ (k.claimed row (by rw [Kept.held_of_started hstarted]; simp))
  | skip _ _ _ | stop _ | start _ _ _ | lose _ _ | discard _ _ _ | crash _ _ | signal _ =>
      exact hearlier

theorem claimed_of_history (h : History batch.entries plan (first plan batch) claims m) :
    ∀ update ∈ m.progress.updates, update.row ∈ claims := by
  rw [← claims_of_history h]
  induction h with
  | start => intro update hupdate; cases hupdate
  | move hearlier hmove ih =>
      exact claimed_step (kept_of_history hearlier) (outline_step hmove) ih

/-- A run that has claimed nothing has done nothing. -/
theorem idle_of_history (h : History batch.entries plan (first plan batch) [] m) :
    m.progress.calls = [] ∧ m.progress.updates = [] ∧ m.ledger = batch.ledger := by
  have hclaims := claims_of_history h
  refine ⟨?_, ?_, ?_⟩
  · exact List.map_eq_nil_iff.1 (List.append_eq_nil_iff.1 hclaims).1
  · apply List.eq_nil_iff_forall_not_mem.2
    intro update hupdate
    cases claimed_of_history h update hupdate
  · apply Ledger.ext_get?
    intro row
    exact (kept_of_history h).untouched row (by rw [hclaims]; simp)

/-- The updates are the way from the ledger that the run found to the ledger as it is, and those
that say pending are the claims. -/
structure Logged (batch : Batch) (o : Outline) : Prop where
  replayed : batch.ledger.replay o.updates = .ok o.ledger
  pendings : (o.updates.filter fun update => update.status = .pending).map Update.row = o.claims

theorem Logged.step (l : Logged batch o) (hwatched : plan.watched = true)
    (k : Kept batch plan o) (h : o.Step batch.entries plan after) : Logged batch after := by
  have hclaims := k.claims_step h
  have hnoted : ∀ row status, o.noted plan row status = o.updates ++ [⟨row, status⟩] :=
    fun _ _ => if_pos hwatched
  cases h with
  | @claim row _ _ _ _ _ hledger =>
      rw [turned_of_claim hledger, ← l.pendings] at hclaims
      refine ⟨?_, ?_⟩
      · simp only [hnoted]
        exact Ledger.replay_concat l.replayed hledger
      · rw [hclaims]
        simp [hnoted]
  | @settle row _ _ status _ _ hstatus hledger =>
      have hterminal := isTerminal_of_status? hstatus
      have hne : status ≠ .pending := by
        rintro rfl
        cases hterminal
      rw [turned_of_settle hledger hterminal, List.append_nil, ← l.pendings] at hclaims
      refine ⟨?_, ?_⟩
      · simp only [hnoted]
        exact Ledger.replay_concat l.replayed hledger
      · rw [hclaims]
        simp [hnoted, hne]
  | skip _ _ _ | stop _ | start _ _ _ | lose _ _ | discard _ _ _ | crash _ _ | signal _ =>
      rw [turned_self, List.append_nil] at hclaims
      exact ⟨l.replayed, l.pendings.trans hclaims.symm⟩

theorem logged_of_history (hwatched : plan.watched = true)
    (h : History batch.entries plan (first plan batch) claims m) : Logged batch m.outline := by
  induction h with
  | start => exact ⟨rfl, rfl⟩
  | move hearlier hmove ih =>
      exact ih.step hwatched (kept_of_history hearlier) (outline_step hmove)

/-- What is published for a row is its life since the run found it open. -/
theorem life_of_published (hwatched : plan.watched = true)
    (h : History batch.entries plan (first plan batch) claims m) (row : Nat) :
    published m.progress.updates row = [] ∨
      row ∈ claims ∧ (.notSubmitted :: published m.progress.updates row).getLast? =
          m.ledger.get? row ∧
        (published m.progress.updates row = [.pending] ∨ ∃ status, status.isTerminal = true ∧
          published m.progress.updates row = [.pending, status]) := by
  by_cases hrow : row ∈ claims
  · have hopen : batch.ledger.get? row = some .notSubmitted := by
      rw [← claims_of_history h] at hrow
      exact (kept_of_history h).open_of_claim hrow
    obtain ⟨hchain, hlast⟩ := published_of_replay (logged_of_history hwatched h).replayed hopen
    exact (Status.life_of_isChain hchain).imp_right fun hlife => ⟨hrow, hlast, hlife⟩
  · left
    apply published_eq_nil
    rintro update hupdate rfl
    exact hrow (claimed_of_history h update hupdate)

/-- When no call takes the run down, each row that the updates name ends with the last of them. -/
theorem life_of_finished (hwatched : plan.watched = true) (hplan : plan.NeverCrashes)
    (h : History batch.entries plan (first plan batch) claims m)
    (hover : Over batch.entries plan m) (row : Nat) :
    published m.progress.updates row = [] ∨ ∃ status, status.isTerminal = true ∧
      published m.progress.updates row = [.pending, status] := by
  rcases life_of_published hwatched h row with hnone | ⟨hrow, hlast, hpending | hended⟩
  · exact .inl hnone
  · rw [← claims_of_history h] at hrow
    obtain ⟨status, hstatus, hterminal⟩ := (finished_of_over hplan h hover).terminal hplan hrow
    rw [hpending, hstatus] at hlast
    obtain rfl : .pending = status := Option.some.inj hlast
    cases hterminal
  · exact .inr hended

theorem pairwise_lt_pendings (hwatched : plan.watched = true)
    (h : History batch.entries plan (first plan batch) claims m) :
    (m.progress.updates.filter fun update => update.status = .pending).Pairwise
      fun earlier later => earlier.row < later.row := by
  have hsorted := (kept_of_history h).pairwise_lt_claims
  rw [← (logged_of_history hwatched h).pendings] at hsorted
  exact List.pairwise_map.1 hsorted

end

/-- At any moment of a run that is watched, also one that was cancelled or taken down, the updates
lead from the ledger that the run found to the ledger as it is, each of them accepted. For a row
they are none, or that it is pending and perhaps how it ended; when the run is over and no call
took it down, also that. Rows become pending in file order. A run that nobody watches can do
whatever a watched one can, and nothing else; if no reader would cancel it, it is the very same. -/
theorem updates_retrace_the_run {plan : Plan} (hwatched : plan.watched = true) (batch : Batch) :
    (∀ claims m, History batch.entries plan (first plan batch) claims m →
      batch.ledger.replay m.progress.updates = .ok m.ledger ∧
      (∀ row, published m.progress.updates row = [] ∨
        published m.progress.updates row = [.pending] ∨ ∃ status, status.isTerminal = true ∧
          published m.progress.updates row = [.pending, status]) ∧
      (plan.NeverCrashes → Over batch.entries plan m → ∀ row,
        published m.progress.updates row = [] ∨ ∃ status, status.isTerminal = true ∧
          published m.progress.updates row = [.pending, status]) ∧
      (m.progress.updates.filter fun update => update.status = .pending).Pairwise
        fun earlier later => earlier.row < later.row) ∧
    (∀ after account, batch.MayRun plan after account →
      ∃ quiet, batch.MayRun plan.unwatched after quiet ∧ quiet.Alike account) ∧
    (∀ after quiet, batch.MayRun plan.unwatched after quiet →
      ∃ account, batch.MayRun plan.unheeded after account ∧ account.Alike quiet) ∧
    (plan.cancellation.afterUpdates = none →
      batch.run plan.unwatched =
        ((batch.run plan).1, { (batch.run plan).2 with updates := [] })) := by
  refine ⟨?_, fun _ _ hrun => hrun.unwatched, fun _ _ hquiet => hquiet.watched,
    batch.run_unwatched plan⟩
  intro claims m h
  refine ⟨(logged_of_history hwatched h).replayed, ?_, ?_, pairwise_lt_pendings hwatched h⟩
  · intro row
    exact (life_of_published hwatched h row).imp_right fun hlife => hlife.2.2
  · intro hplan hover row
    exact life_of_finished hwatched hplan h hover row

/-- Two calls that never return, the second of them cancels: four updates lead to where the ledger
is in the end, and the run is the same when nobody reads them. -/
theorem updates_retrace_the_run_of_hanging :
    hangingPlan.watched = true ∧ hangingPlan.NeverCrashes ∧
      (Batch.small.run hangingPlan).2.updates.map (fun update =>
        (update.row, update.status.name)) =
          [(0, "pending"), (0, "failed"), (2, "pending"), (2, "failed")] ∧
      Batch.small.ledger.replay (Batch.small.run hangingPlan).2.updates =
        .ok (Batch.small.run hangingPlan).1.ledger ∧
      (∃ status, status.isTerminal = true ∧
        published (Batch.small.run hangingPlan).2.updates 2 = [.pending, status]) ∧
      Batch.small.run hangingPlan.unwatched =
        ((Batch.small.run hangingPlan).1,
          { (Batch.small.run hangingPlan).2 with updates := [] }) := by
  obtain ⟨claims, hhistory⟩ := exists_history_last Batch.small.entries hangingPlan
    (first hangingPlan Batch.small)
  have hwatched : hangingPlan.watched = true := rfl
  have h := updates_retrace_the_run hwatched Batch.small
  obtain ⟨hreplay, _, hlives, _⟩ := h.1 claims _ hhistory
  refine ⟨hwatched, hangingPlan_neverCrashes, by decide +kernel, hreplay, ?_, h.2.2.2 rfl⟩
  rcases hlives hangingPlan_neverCrashes (over_last ..) 2 with hnone | hended
  · exact absurd hnone (by decide +kernel)
  · exact hended

end Run
end Enrolment

import Enrolment.Proofs.Run.Order

/-!
A run does not hang on its readers. Without the updates every step is the same; so whatever a run
does before readers, cancelled by one of them or not, it can do before none. Of what depends on
readers only their cancelling is left, and that is a cancellation like any other.
-/

namespace Enrolment

namespace Plan

/-- The plan when no reader of the updates cancels the run. -/
def unheeded (plan : Plan) : Plan :=
  { plan with cancellation := { plan.cancellation with afterUpdates := none } }

/-- The plan when the updates reach no reader, be it that there is no channel for them or that its
reader is gone. Then no reader can cancel the run either. -/
def unwatched (plan : Plan) : Plan :=
  { plan.unheeded with watched := false }

theorem unheeded_eq_self {plan : Plan} (h : plan.cancellation.afterUpdates = none) :
    plan.unheeded = plan := by
  rw [unheeded, ← h]

end Plan

namespace Run

namespace Moment

def cancel (m : Moment) : Moment :=
  { m with progress := { m.progress with cancelled := true } }

/-- The moment without what has been published. -/
def silent (m : Moment) : Moment :=
  { m with progress := { m.progress with updates := [] } }

end Moment

/-- What a reader can add to a step of the run: a cancellation right after it. -/
def Heeded (next heeded : Moment) : Prop :=
  heeded = next ∨
    next.progress.crashed = false ∧ next.progress.cancelled = false ∧ heeded = next.cancel

theorem Heeded.refl (next : Moment) : Heeded next next :=
  .inl rfl

section
variable {entries : List Entry} {plan : Plan} {m : Moment}

/-- Readers take effect when the clock moves. -/
theorem heeded_moveClock (plan : Plan) (instant : Nat) (hcrashed : m.progress.crashed = false) :
    Heeded (moveClock plan.unheeded m instant) (moveClock plan m instant) := by
  cases hupdates : plan.cancellation.byUpdates m.progress.updates.length with
  | false =>
      left
      simp only [moveClock, hupdates]
      rfl
  | true =>
      cases hcancelled : (m.progress.cancelled || plan.cancellation.byTime instant) with
      | true =>
          left
          simp only [moveClock, hcancelled, Bool.true_or]
          rw [show (m.progress.cancelled || plan.unheeded.cancellation.byTime instant) = true from
            hcancelled, Bool.true_or]
      | false =>
          right
          refine ⟨hcrashed, ?_, ?_⟩
          · change (m.progress.cancelled || plan.cancellation.byTime instant || false) = false
            rw [hcancelled, Bool.or_false]
          · simp only [moveClock, hupdates, Bool.or_true]
            rfl

theorem heeded_proceed (entries : List Entry) (plan : Plan)
    (hcrashed : m.progress.crashed = false) :
    Option.Rel Heeded (proceed entries plan.unheeded m) (proceed entries plan m) := by
  cases hready : m.progress.ready with
  | nil =>
      cases hwaiting : m.progress.waiting with
      | nil =>
          simp only [proceed, hready, hwaiting]
          exact .none
      | cons first others =>
          simp only [proceed, hready, hwaiting]
          exact .some (heeded_moveClock plan _ hcrashed)
  | cons r rest =>
      cases r with
      | claimed row =>
          cases hentry : entries[row]? <;>
            simp only [proceed, hready, hentry] <;> exact .some (Heeded.refl _)
      | resolved row resolution =>
          simp only [proceed, hready]
          exact .some (Heeded.refl _)

theorem heeded_step (entries : List Entry) (plan : Plan) (m : Moment) :
    Option.Rel Heeded (step entries plan.unheeded m) (step entries plan m) := by
  rw [step, step, show plan.unheeded.policy = plan.policy from rfl]
  by_cases hcrashed : m.progress.crashed = true
  · rw [if_pos hcrashed, if_pos hcrashed]
    exact .none
  rw [if_neg hcrashed, if_neg hcrashed]
  have hproceed := heeded_proceed entries plan (Bool.eq_false_iff.2 hcrashed)
  by_cases hroom : m.progress.inProgress < plan.policy.slots
  · rw [if_pos hroom, if_pos hroom]
    cases hremaining : m.progress.remaining with
    | nil => exact hproceed
    | cons row rest => cases hcancelled : m.progress.cancelled <;> exact .some (Heeded.refl _)
  · rw [if_neg hroom, if_neg hroom]
    exact hproceed

/-- A run that a reader cancels is one that somebody cancels. -/
theorem history_unheeded {start : Moment} {claims : List Nat}
    (h : History entries plan start claims m) : History entries plan.unheeded start claims m := by
  induction h with
  | start => exact .start
  | @move claims m next _ hmove ih =>
      cases hmove with
      | cancel hcrashed hopen => exact ih.move (.cancel hcrashed hopen)
      | answer hcrashed hwaiting => exact ih.move (.answer hcrashed hwaiting)
      | own hstep =>
          have hrel := heeded_step entries plan m
          rw [hstep] at hrel
          generalize hquiet : step entries plan.unheeded m = quiet at hrel
          cases hrel with
          | @some mid _ hheeded =>
              have hmid := ih.move (.own hquiet)
              obtain rfl | ⟨hcrashed, hopen, rfl⟩ := hheeded
              · exact hmid
              · have hcancel := hmid.move (.cancel hcrashed hopen)
                rwa [turned_self, List.append_nil] at hcancel

theorem over_unheeded_iff : Over entries plan.unheeded m ↔ Over entries plan m := by
  have hrel := heeded_step entries plan m
  rw [Over, Over]
  generalize step entries plan.unheeded m = quiet at hrel
  generalize step entries plan m = heard at hrel
  cases hrel <;> simp

theorem claim_silent (row : Nat) (rest : List Nat) :
    claim plan.unwatched m.silent row rest = (claim plan.unheeded m row rest).silent := by
  rw [claim, claim, show m.silent.ledger = m.ledger from rfl]
  split
  · simp only [publish_eq]
    rfl
  · rfl

theorem start_silent (record : Record) (row : Nat) (rest : List Ready) :
    start plan.unwatched record m.silent row rest =
      (start plan.unheeded record m row rest).silent := by
  have hconduct : plan.unwatched.service m.silent.progress.calls.length record =
      plan.unheeded.service m.progress.calls.length record := rfl
  simp only [start, hconduct]
  rw [show plan.unwatched.policy = plan.unheeded.policy from rfl]
  split <;> rfl

theorem finish_silent (row : Nat) (resolution : Resolution) (rest : List Ready) :
    finish plan.unwatched m.silent row resolution rest =
      (finish plan.unheeded m row resolution rest).silent := by
  simp only [finish]
  rw [show plan.unwatched.policy = plan.unheeded.policy from rfl,
    show m.silent.ledger = m.ledger from rfl]
  split
  · rfl
  · split
    · simp only [publish_eq]
      rfl
    · rfl

theorem moveClock_silent (instant : Nat) :
    moveClock plan.unwatched m.silent instant = (moveClock plan.unheeded m instant).silent :=
  rfl

theorem proceed_silent (entries : List Entry) (plan : Plan) (m : Moment) :
    proceed entries plan.unwatched m.silent =
      (proceed entries plan.unheeded m).map Moment.silent := by
  have hsilentReady : m.silent.progress.ready = m.progress.ready := rfl
  have hsilentWaiting : m.silent.progress.waiting = m.progress.waiting := rfl
  cases hready : m.progress.ready with
  | nil =>
      cases hwaiting : m.progress.waiting with
      | nil => simp only [proceed, hsilentReady, hsilentWaiting, hready, hwaiting, Option.map_none]
      | cons first others =>
          simp only [proceed, hsilentReady, hsilentWaiting, hready, hwaiting, Option.map_some,
            moveClock_silent]
  | cons r rest =>
      cases r with
      | claimed row =>
          cases hentry : entries[row]? with
          | none =>
              simp only [proceed, hsilentReady, hready, hentry, Option.map_some]
              rfl
          | some entry =>
              simp only [proceed, hsilentReady, hready, hentry, Option.map_some, start_silent]
      | resolved row resolution =>
          simp only [proceed, hsilentReady, hready, Option.map_some, finish_silent]

/-- Nothing that a run does depends on what it has published. -/
theorem step_silent (entries : List Entry) (plan : Plan) (m : Moment) :
    step entries plan.unwatched m.silent =
      (step entries plan.unheeded m).map Moment.silent := by
  have hproceed := proceed_silent entries plan m
  rw [step, step, show m.silent.progress.crashed = m.progress.crashed from rfl,
    show m.silent.progress.inProgress = m.progress.inProgress from rfl,
    show m.silent.progress.remaining = m.progress.remaining from rfl,
    show m.silent.progress.cancelled = m.progress.cancelled from rfl,
    show plan.unwatched.policy = plan.unheeded.policy from rfl]
  by_cases hcrashed : m.progress.crashed = true
  · rw [if_pos hcrashed, if_pos hcrashed, Option.map_none]
  rw [if_neg hcrashed, if_neg hcrashed]
  by_cases hroom : m.progress.inProgress < plan.unheeded.policy.slots
  · rw [if_pos hroom, if_pos hroom]
    cases hremaining : m.progress.remaining with
    | nil => exact hproceed
    | cons row rest =>
        cases hcancelled : m.progress.cancelled with
        | true => rfl
        | false => exact congrArg some (claim_silent row rest)
  · rw [if_neg hroom, if_neg hroom]
    exact hproceed

theorem move_silent {next : Moment} (h : Move entries plan.unheeded m next) :
    Move entries plan.unwatched m.silent next.silent := by
  cases h with
  | own hstep => exact .own (by rw [step_silent, hstep, Option.map_some])
  | cancel hcrashed hopen => exact .cancel hcrashed hopen
  | answer hcrashed hwaiting => exact .answer hcrashed hwaiting

theorem history_silent {start : Moment} {claims : List Nat}
    (h : History entries plan.unheeded start claims m) :
    History entries plan.unwatched start.silent claims m.silent := by
  induction h with
  | start => exact .start
  | move _ hmove ih => exact ih.move (move_silent hmove)

/-- What a run can do before no reader it can do before readers that leave it alone. -/
theorem exists_history_of_silent {start quiet : Moment} {claims : List Nat}
    (h : History entries plan.unwatched start.silent claims quiet) :
    ∃ m, m.silent = quiet ∧ History entries plan.unheeded start claims m := by
  induction h with
  | start => exact ⟨start, rfl, .start⟩
  | move _ hmove ih =>
      obtain ⟨m, rfl, hm⟩ := ih
      cases hmove with
      | own hstep =>
          rw [step_silent] at hstep
          obtain ⟨next, hnext, rfl⟩ := Option.map_eq_some_iff.1 hstep
          exact ⟨next, rfl, hm.move (.own hnext)⟩
      | cancel hcrashed hopen => exact ⟨m.cancel, rfl, hm.move (.cancel hcrashed hopen)⟩
      | @answer w front back hcrashed hwaiting =>
          let next : Moment :=
            { m with
              progress :=
                { m.progress with
                  ready := m.progress.ready ++ [.resolved w.row w.resolution]
                  waiting := front ++ back } }
          exact ⟨next, rfl, hm.move (.answer hcrashed hwaiting)⟩

theorem over_silent_iff : Over entries plan.unwatched m.silent ↔ Over entries plan.unheeded m := by
  rw [Over, Over, step_silent, Option.map_eq_none_iff]

theorem last_silent (entries : List Entry) (plan : Plan) (m : Moment) :
    last entries plan.unwatched m.silent = (last entries plan.unheeded m).silent := by
  fun_induction last entries plan.unheeded m with
  | case1 m hstep =>
      rw [last, step_silent, hstep]
      rfl
  | case2 m next hstep ih =>
      rw [last, step_silent, hstep]
      exact ih

end

end Run

/-- The same calls, ended in the same order, and the same report. -/
def Run.Account.Alike (left right : Run.Account) : Prop :=
  left.calls = right.calls ∧ left.ends = right.ends ∧ left.report = right.report

namespace Batch
open Run

variable {batch after : Batch} {plan : Plan} {account quiet : Account}

/-- What a run may leave before readers it may leave before none. -/
theorem MayRun.unwatched (h : batch.MayRun plan after account) :
    ∃ quiet, batch.MayRun plan.unwatched after quiet ∧ quiet.Alike account := by
  obtain ⟨claims, m, hhistory, hover, hleft⟩ := h
  obtain ⟨rfl, rfl⟩ := Prod.mk.inj hleft
  exact ⟨_, ⟨claims, m.silent, history_silent (history_unheeded hhistory),
    over_silent_iff.2 (over_unheeded_iff.2 hover), rfl⟩, rfl, rfl, rfl⟩

/-- What a run may leave before no reader it may leave before readers that leave it alone. -/
theorem MayRun.watched (h : batch.MayRun plan.unwatched after quiet) :
    ∃ account, batch.MayRun plan.unheeded after account ∧ account.Alike quiet := by
  obtain ⟨claims, silent, hsilent, hover, hleft⟩ := h
  have hfirst : first plan.unwatched batch = (first plan batch).silent := rfl
  rw [hfirst] at hsilent
  obtain ⟨m, rfl, hhistory⟩ := exists_history_of_silent hsilent
  obtain ⟨rfl, rfl⟩ := Prod.mk.inj hleft
  exact ⟨_, ⟨claims, m, hhistory, over_silent_iff.1 hover, rfl⟩, rfl, rfl, rfl⟩

/-- Unless a reader would cancel the run, it is the same run without any. -/
theorem run_unwatched (batch : Batch) (plan : Plan)
    (h : plan.cancellation.afterUpdates = none) :
    batch.run plan.unwatched = ((batch.run plan).1, { (batch.run plan).2 with updates := [] }) := by
  have hlast : last batch.entries plan.unwatched (first plan.unwatched batch) =
      (last batch.entries plan (first plan batch)).silent := by
    have hsilent := last_silent batch.entries plan (first plan batch)
    rwa [Plan.unheeded_eq_self h] at hsilent
  have hnobody : ∀ published, plan.cancellation.byUpdates published = false := by
    intro published
    rw [Cancellation.byUpdates, h]
    rfl
  rw [Batch.run, hlast, Batch.run]
  simp only [Batch.conclude, hnobody]
  rfl

end Batch
end Enrolment

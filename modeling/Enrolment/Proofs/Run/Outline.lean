import Mathlib.Data.Multiset.AddSub
import Mathlib.Data.Multiset.MapFold
import Enrolment.Proofs.Ledger
import Enrolment.Proofs.Run.Move

/-!
What counts of a run at one moment: where each claimed row stands, whatever the clock shows and in
whatever order answers stand in line. Every move of a run is a step of its outline, so a statement
about outlines holds in every history. Since a move also uses up leeway, every history ends.
-/

namespace Enrolment

/-- What the call with the given number gives its run. -/
def Plan.resolution (plan : Plan) (number : Nat) (record : Record) : Resolution :=
  ((plan.service number record).resolve plan.policy.timeout).2

namespace Run

namespace Ready

/-- The row, if its call has not started. -/
def unstarted? : Ready → Option Nat
  | claimed row => some row
  | resolved _ _ => none

/-- The row and what its call gave, if the call is over. -/
def over? : Ready → Option (Nat × Resolution)
  | claimed _ => none
  | resolved row resolution => some (row, resolution)

section
variable (row : Nat) (resolution : Resolution) (ready : List Ready)

@[simp] theorem filterMap_unstarted?_claimed :
    (claimed row :: ready).filterMap unstarted? = row :: ready.filterMap unstarted? := rfl

@[simp] theorem filterMap_unstarted?_resolved :
    (resolved row resolution :: ready).filterMap unstarted? = ready.filterMap unstarted? := rfl

@[simp] theorem filterMap_over?_claimed :
    (claimed row :: ready).filterMap over? = ready.filterMap over? := rfl

@[simp] theorem filterMap_over?_resolved :
    (resolved row resolution :: ready).filterMap over? =
      (row, resolution) :: ready.filterMap over? := rfl

end

end Ready

def Waiting.answer (w : Waiting) : Nat × Resolution :=
  (w.row, w.resolution)

namespace Progress

/-- The claimed rows whose calls have not started, in the order of their claims. -/
def queue (p : Progress) : List Nat :=
  p.ready.filterMap Ready.unstarted?

/-- The rows whose calls have started and are not entered, each with what its call gives. -/
def started (p : Progress) : Multiset (Nat × Resolution) :=
  ↑(p.ready.filterMap Ready.over?) + ↑(p.waiting.map Waiting.answer)

end Progress

structure Outline where
  ledger : Ledger
  remaining : List Nat
  queue : List Nat
  started : Multiset (Nat × Resolution)
  calls : List Call
  updates : List Update
  cancelled : Bool
  crashed : Bool

namespace Outline

/-- The rows that the run has claimed and not finished. -/
def held (o : Outline) : Multiset Nat :=
  ↑o.queue + o.started.map Prod.fst

/-- The rows that the run has claimed, in the order of their claims. -/
def claims (o : Outline) : List Nat :=
  o.calls.map Call.row ++ o.queue

/-- The updates with one more, if anybody watches. -/
def noted (o : Outline) (plan : Plan) (row : Nat) (status : Status) : List Update :=
  if plan.watched then o.updates ++ [⟨row, status⟩] else o.updates

/-- All that a move can be. Claims are made in the order of the rows, and calls start in the order
of the claims; calls may end in any order. -/
inductive Step (entries : List Entry) (plan : Plan) (o : Outline) : Outline → Prop where
  | claim {row : Nat} {rest : List Nat} {ledger : Ledger} :
      Multiset.card o.held < plan.policy.slots → o.remaining = row :: rest →
      o.cancelled = false → o.ledger.transition row .pending = .ok ledger →
      Step entries plan o
        { o with
          ledger
          remaining := rest
          queue := o.queue ++ [row]
          updates := o.noted plan row .pending }
  | skip {row : Nat} {rest : List Nat} {error : LedgerError} :
      o.remaining = row :: rest → o.cancelled = false →
      o.ledger.transition row .pending = .error error →
      Step entries plan o { o with remaining := rest }
  | stop : o.cancelled = true → Step entries plan o { o with remaining := [] }
  | start {row : Nat} {rest : List Nat} {entry : Entry} {cancelled : Bool} :
      o.queue = row :: rest → entries[row]? = some entry →
      (o.cancelled = true → cancelled = true) →
      Step entries plan o
        { o with
          queue := rest
          started := (row, plan.resolution o.calls.length entry.record) ::ₘ o.started
          calls := o.calls ++ [⟨row, entry.record, o.ledger.statuses.count .pending,
            Multiset.card o.started + 1⟩]
          cancelled }
  | lose {row : Nat} {rest : List Nat} :
      o.queue = row :: rest → entries[row]? = none →
      Step entries plan o { o with queue := rest }
  | settle {row : Nat} {resolution : Resolution} {others : Multiset (Nat × Resolution)}
      {status : Status} {ledger : Ledger} :
      o.started = (row, resolution) ::ₘ others →
      resolution.status? plan.policy.timeout = some status →
      o.ledger.transition row status = .ok ledger →
      Step entries plan o
        { o with ledger, started := others, updates := o.noted plan row status }
  | discard {row : Nat} {resolution : Resolution} {others : Multiset (Nat × Resolution)}
      {status : Status} {error : LedgerError} :
      o.started = (row, resolution) ::ₘ others →
      resolution.status? plan.policy.timeout = some status →
      o.ledger.transition row status = .error error →
      Step entries plan o { o with started := others }
  | crash {row : Nat} {resolution : Resolution} {others : Multiset (Nat × Resolution)} :
      o.started = (row, resolution) ::ₘ others →
      resolution.status? plan.policy.timeout = none →
      Step entries plan o { o with started := others, crashed := true }
  | signal {cancelled : Bool} : (o.cancelled = true → cancelled = true) →
      Step entries plan o { o with cancelled }

end Outline

def Moment.outline (m : Moment) : Outline where
  ledger := m.ledger
  remaining := m.progress.remaining
  queue := m.progress.queue
  started := m.progress.started
  calls := m.progress.calls
  updates := m.progress.updates
  cancelled := m.progress.cancelled
  crashed := m.progress.crashed

theorem publish_eq (plan : Plan) (p : Progress) (row : Nat) (status : Status) :
    p.publish plan row status =
      { p with updates := if plan.watched then p.updates ++ [⟨row, status⟩] else p.updates } := by
  rw [Progress.publish]
  split <;> rfl

theorem length_ready (ready : List Ready) :
    ready.length =
      (ready.filterMap Ready.unstarted?).length + (ready.filterMap Ready.over?).length := by
  induction ready with
  | nil => rfl
  | cons r ready ih => cases r <;> simp [ih] <;> omega

theorem card_held (m : Moment) : Multiset.card m.outline.held = m.progress.inProgress := by
  simp only [Outline.held, Moment.outline, Progress.started, Progress.queue, Progress.inProgress,
    Multiset.card_add, Multiset.card_map, Multiset.coe_card, List.length_map,
    length_ready m.progress.ready]
  omega

theorem card_started (m : Moment) : Multiset.card m.outline.started = m.progress.underWay := by
  have hcount : (m.progress.ready.filterMap Ready.over?).length =
      m.progress.ready.countP Ready.hasStarted := by
    induction m.progress.ready with
    | nil => rfl
    | cons r ready ih => cases r <;> simp [List.countP_cons, Ready.hasStarted, ih]
  simp only [Moment.outline, Progress.started, Progress.underWay, Multiset.card_add,
    Multiset.coe_card, List.length_map, hcount]
  omega

theorem outline_claim {entries : List Entry} {plan : Plan} {m : Moment} {row : Nat}
    {rest : List Nat} (hroom : m.progress.inProgress < plan.policy.slots)
    (hremaining : m.progress.remaining = row :: rest) (hopen : m.progress.cancelled = false) :
    m.outline.Step entries plan (claim plan m row rest).outline := by
  rw [claim]
  split
  · next ledger hledger =>
      have hheld : Multiset.card m.outline.held < plan.policy.slots := by rwa [card_held]
      have hstep : m.outline.Step entries plan _ := .claim hheld hremaining hopen hledger
      simpa [publish_eq, Moment.outline, Progress.queue, Progress.started, Outline.noted]
        using hstep
  · next error herror => exact .skip hremaining hopen herror

theorem cons_coe_eq_append {α : Type} (a : α) (as : List α) :
    a ::ₘ (as : Multiset α) = ↑(as ++ [a]) :=
  Multiset.coe_eq_coe.2 (List.perm_append_singleton a as).symm

theorem outline_start {entries : List Entry} {plan : Plan} {m : Moment} {row : Nat}
    {entry : Entry} {rest : List Ready} (hready : m.progress.ready = .claimed row :: rest)
    (hentry : entries[row]? = some entry) :
    m.outline.Step entries plan (start plan entry.record m row rest).outline := by
  have hqueue : m.outline.queue = row :: rest.filterMap Ready.unstarted? := by
    simp [Moment.outline, Progress.queue, hready]
  have hstarted : m.outline.started =
      ↑(rest.filterMap Ready.over?) + ↑(m.progress.waiting.map Waiting.answer) := by
    simp [Moment.outline, Progress.started, hready]
  have hkept : m.outline.cancelled = true → (m.progress.cancelled ||
      plan.cancellation.byCall (m.progress.calls.length + 1)) = true := by
    intro hcancelled
    simp only [Moment.outline] at hcancelled
    rw [hcancelled, Bool.true_or]
  have hstep : m.outline.Step entries plan _ := .start hqueue hentry hkept
  rw [card_started, hstarted] at hstep
  simp only [start]
  -- Over at once or waiting for the clock: to the outline the call has started either way.
  split
  · simpa [Moment.outline, Progress.queue, Progress.started, Plan.resolution] using hstep
  · rw [Multiset.coe_add, cons_coe_eq_append] at hstep
    simpa [Moment.outline, Progress.queue, Progress.started, Plan.resolution, Waiting.answer]
      using hstep

theorem outline_finish {entries : List Entry} {plan : Plan} {m : Moment} {row : Nat}
    {resolution : Resolution} {rest : List Ready}
    (hready : m.progress.ready = .resolved row resolution :: rest) :
    m.outline.Step entries plan (finish plan m row resolution rest).outline := by
  have hstarted : m.outline.started = (row, resolution) ::ₘ
      (↑(rest.filterMap Ready.over?) + ↑(m.progress.waiting.map Waiting.answer)) := by
    simp [Moment.outline, Progress.started, hready]
  have hqueue : m.progress.queue = rest.filterMap Ready.unstarted? := by
    simp [Progress.queue, hready]
  simp only [finish]
  split
  · next hnone =>
      have hstep : m.outline.Step entries plan _ := .crash hstarted hnone
      simpa [Moment.outline, Progress.started, Progress.queue, hready] using hstep
  · next status hstatus =>
      split
      · next ledger hledger =>
          have hstep : m.outline.Step entries plan _ := .settle hstarted hstatus hledger
          simpa [publish_eq, Moment.outline, Progress.started, Progress.queue, Outline.noted,
            hready] using hstep
      · next error herror =>
          have hstep : m.outline.Step entries plan _ := .discard hstarted hstatus herror
          simpa [Moment.outline, Progress.started, Progress.queue, hready] using hstep

theorem filter_add_filter_not {α : Type} (as : List α) (p : α → Bool) :
    (↑(as.filter p) + ↑(as.filter fun a => !p a) : Multiset α) = ↑as :=
  Multiset.coe_eq_coe.2 (List.filter_append_perm p as)

theorem filterMap_over?_answers (ws : List Waiting) :
    (ws.map fun w => Ready.resolved w.row w.resolution).filterMap Ready.over? =
      ws.map Waiting.answer := by
  induction ws with
  | nil => rfl
  | cons w ws ih => simp [ih, Waiting.answer]

theorem filterMap_unstarted?_answers (ws : List Waiting) :
    (ws.map fun w => Ready.resolved w.row w.resolution).filterMap Ready.unstarted? = [] := by
  induction ws with
  | nil => rfl
  | cons w ws ih => simp [ih]

/-- To the outline the clock is nothing: it only moves calls from one place to another. -/
theorem outline_moveClock (plan : Plan) {m : Moment} (instant : Nat)
    (hready : m.progress.ready = []) :
    (moveClock plan m instant).outline =
      { m.outline with
        cancelled := m.progress.cancelled || plan.cancellation.byTime instant ||
          plan.cancellation.byUpdates m.progress.updates.length } := by
  have hqueue : m.progress.queue = [] := by simp [Progress.queue, hready]
  have hstarted : m.progress.started =
      ↑((m.progress.waiting.filter fun w => decide (w.overAt ≤ instant)).map Waiting.answer) +
        ↑((m.progress.waiting.filter fun w => !decide (w.overAt ≤ instant)).map
          Waiting.answer) := by
    rw [← Multiset.map_coe, ← Multiset.map_coe, ← Multiset.map_add, filter_add_filter_not]
    simp [Progress.started, hready]
  simp only [Moment.outline, hqueue, hstarted]
  simp only [moveClock, Progress.queue, Progress.started, filterMap_over?_answers,
    filterMap_unstarted?_answers]

theorem outline_answer {m : Moment} {w : Waiting} {front back : List Waiting}
    (hwaiting : m.progress.waiting = front ++ w :: back) :
    Moment.outline
      { m with
        progress :=
          { m.progress with
            ready := m.progress.ready ++ [.resolved w.row w.resolution]
            waiting := front ++ back } } = m.outline := by
  simp only [Moment.outline, Progress.queue, Progress.started, hwaiting, List.filterMap_append,
    List.map_append, List.map_cons]
  simp only [Outline.mk.injEq, true_and, and_true]
  refine ⟨by simp, ?_⟩
  rw [Multiset.coe_add, Multiset.coe_add, Multiset.coe_eq_coe, List.append_assoc]
  apply List.Perm.append_left
  change (w.answer :: (front.map Waiting.answer ++ back.map Waiting.answer)).Perm _
  exact List.perm_middle.symm

theorem outline_proceed {entries : List Entry} {plan : Plan} {m next : Moment}
    (h : proceed entries plan m = some next) : m.outline.Step entries plan next.outline := by
  rw [proceed] at h
  split at h
  · next row rest hready =>
      split at h
      · next entry hentry =>
          rw [← Option.some.inj h]
          exact outline_start hready hentry
      · next hnone =>
          have hqueue : m.outline.queue = row :: rest.filterMap Ready.unstarted? := by
            simp [Moment.outline, Progress.queue, hready]
          have hstep : m.outline.Step entries plan _ := .lose hqueue hnone
          rw [← Option.some.inj h]
          simpa [Moment.outline, Progress.queue, Progress.started, hready] using hstep
  · next row resolution rest hready =>
      rw [← Option.some.inj h]
      exact outline_finish hready
  · next hready =>
      split at h
      · cases h
      · next first others _ =>
          rw [← Option.some.inj h, outline_moveClock plan _ hready]
          apply Outline.Step.signal
          intro hcancelled
          have hm : m.progress.cancelled = true := hcancelled
          simp [hm]

/-- Every move of a run is a step of its outline. -/
theorem outline_step {entries : List Entry} {plan : Plan} {m next : Moment}
    (h : Move entries plan m next) : m.outline.Step entries plan next.outline := by
  cases h with
  | cancel => exact .signal fun _ => rfl
  | answer _ hwaiting =>
      rw [outline_answer hwaiting]
      exact .signal id
  | own hstep =>
      rw [step] at hstep
      split at hstep
      · cases hstep
      · split at hstep
        · next hroom =>
            split at hstep
            · next row rest hremaining =>
                split at hstep
                · next hcancelled =>
                    rw [← Option.some.inj hstep]
                    exact .stop hcancelled
                · next hopen =>
                    rw [← Option.some.inj hstep]
                    exact outline_claim hroom hremaining (by simpa using hopen)
            · exact outline_proceed hstep
        · exact outline_proceed hstep

/-- Nothing is left of a run that is over and that no call took down. -/
theorem outline_of_over {entries : List Entry} {plan : Plan} {m : Moment}
    (h : Over entries plan m) (hcrashed : m.progress.crashed = false) :
    m.outline.remaining = [] ∧ m.outline.queue = [] ∧ m.outline.started = 0 := by
  have hidle : proceed entries plan m = none →
      m.progress.ready = [] ∧ m.progress.waiting = [] := by
    intro hnone
    rw [proceed] at hnone
    split at hnone
    · split at hnone <;> cases hnone
    · cases hnone
    · next hready =>
        split at hnone
        · next hwaiting => exact ⟨hready, hwaiting⟩
        · cases hnone
  rw [Over, step] at h
  rw [if_neg (by simp [hcrashed])] at h
  have hslots : 0 < plan.policy.slots := by simp [Policy.slots]
  split at h
  · split at h
    · split at h <;> cases h
    · next hremaining =>
        obtain ⟨hready, hwaiting⟩ := hidle h
        simp [Moment.outline, Progress.queue, Progress.started, hremaining, hready, hwaiting]
  · next hfull =>
      obtain ⟨hready, hwaiting⟩ := hidle h
      simp [Progress.inProgress, hready, hwaiting] at hfull
      omega

theorem Outline.Step.cancelled {entries : List Entry} {plan : Plan} {o after : Outline}
    (h : o.Step entries plan after) (hcancelled : o.cancelled = true) :
    after.cancelled = true := by
  cases h with
  | claim _ _ hopen _ | skip _ hopen _ => simp [hcancelled] at hopen
  | start _ _ hkept | signal hkept => exact hkept hcancelled
  | stop _ | lose _ _ | settle _ _ _ | discard _ _ _ | crash _ _ => exact hcancelled

/-- Only the start of a call adds to the calls. Its row was the first to wait for one. -/
theorem Outline.Step.calls_eq {entries : List Entry} {plan : Plan} {o after : Outline}
    (h : o.Step entries plan after) :
    after.calls = o.calls ∨
      ∃ call rest, o.queue = call.row :: rest ∧ after.calls = o.calls ++ [call] ∧
        0 < Multiset.card after.started := by
  cases h with
  | start hqueue _ _ => exact .inr ⟨_, _, hqueue, rfl, by simp⟩
  | claim _ _ _ _ | skip _ _ _ | stop _ | lose _ _ | settle _ _ _ | discard _ _ _ | crash _ _
  | signal _ => exact .inl rfl

/-- Nothing but changes that the ledger accepts happens to it. -/
theorem Outline.Step.leadsTo {entries : List Entry} {plan : Plan} {o after : Outline}
    (h : o.Step entries plan after) : o.ledger.LeadsTo after.ledger := by
  cases h with
  | claim _ _ _ hledger | settle _ _ hledger => exact .change .refl hledger
  | skip _ _ _ | stop _ | start _ _ _ | lose _ _ | discard _ _ _ | crash _ _ | signal _ =>
      exact .refl

theorem Move.leadsTo {entries : List Entry} {plan : Plan} {m next : Moment}
    (h : Move entries plan m next) : m.ledger.LeadsTo next.ledger :=
  (outline_step h).leadsTo

theorem History.leadsTo {entries : List Entry} {plan : Plan} {start m : Moment}
    {claims : List Nat} (h : History entries plan start claims m) :
    start.ledger.LeadsTo m.ledger := by
  induction h with
  | start => exact .refl
  | move _ hmove ih => exact ih.trans hmove.leadsTo

/-- How much a run and the world can still do. -/
def leeway (m : Moment) : Nat :=
  m.progress.work + if m.progress.cancelled then 0 else 1

theorem leeway_lt_of_move {entries : List Entry} {plan : Plan} {m next : Moment}
    (h : Move entries plan m next) : leeway next < leeway m := by
  have hkept : m.progress.cancelled = true → next.progress.cancelled = true :=
    (outline_step h).cancelled
  rw [leeway, leeway]
  cases h with
  | own hstep =>
      have hwork := work_lt_of_step hstep
      split
      · omega
      · next hopen =>
          rw [if_neg fun hcancelled => hopen (hkept hcancelled)]
          omega
  | cancel _ hopen =>
      simp only [hopen]
      change m.progress.work + 0 < m.progress.work + 1
      omega
  | answer _ hwaiting =>
      simp only [Progress.work, hwaiting, totalWeight_append, Ready.totalWeight, Ready.weight,
        List.length_append, List.length_cons]
      omega

/-- No run goes on for ever, whatever the world does. -/
theorem exists_not_move (entries : List Entry) (plan : Plan) (moments : Nat → Moment) :
    ∃ n, ¬Move entries plan (moments n) (moments (n + 1)) := by
  by_contra hall
  have hmove : ∀ n, Move entries plan (moments n) (moments (n + 1)) := by
    intro n
    by_contra hn
    exact hall ⟨n, hn⟩
  have hbound : ∀ n, leeway (moments n) + n ≤ leeway (moments 0) := by
    intro n
    induction n with
    | zero => exact Nat.le_refl _
    | succ n ih =>
        have hlt := leeway_lt_of_move (hmove n)
        omega
  have hend := hbound (leeway (moments 0) + 1)
  omega

end Run
end Enrolment

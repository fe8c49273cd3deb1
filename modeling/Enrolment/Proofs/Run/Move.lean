import Enrolment.Run.Session

/-!
Runs in a world that does not keep to the clock. Beside the steps of its own a run may find at any
moment that its token has been cancelled, or that a call under way is over. So a history of moves
may have any order of answers and any moment of cancellation; the run that follows the clock is one
of them. No history goes on for ever.
-/

namespace Enrolment
namespace Run

inductive Move (entries : List Entry) (plan : Plan) : Moment → Moment → Prop where
  /-- The run takes its own next step. -/
  | own {m next : Moment} : step entries plan m = some next → Move entries plan m next
  /-- Somebody cancels the token. -/
  | cancel {m : Moment} : m.progress.crashed = false → m.progress.cancelled = false →
      Move entries plan m { m with progress := { m.progress with cancelled := true } }
  /-- A call under way is over, whatever the clock says. -/
  | answer {m : Moment} {w : Waiting} {front back : List Waiting} :
      m.progress.crashed = false → m.progress.waiting = front ++ w :: back →
      Move entries plan m
        { m with
          progress :=
            { m.progress with
              ready := m.progress.ready ++ [.resolved w.row w.resolution]
              waiting := front ++ back } }

/-- A run that a call took down does not move any more. -/
theorem Move.not_crashed {entries : List Entry} {plan : Plan} {m next : Moment}
    (h : Move entries plan m next) : m.progress.crashed = false := by
  cases h with
  | own hstep =>
      rw [step] at hstep
      split at hstep
      · cases hstep
      · next hcrashed => exact Bool.eq_false_iff.2 hcrashed
  | cancel hcrashed _ | answer hcrashed _ => exact hcrashed

/-- A run that has nothing left to do, or that a call took down. -/
def Over (entries : List Entry) (plan : Plan) (m : Moment) : Prop :=
  step entries plan m = none

/-- The rows that are pending now and were not before. -/
def turned (before after : Ledger) : List Nat :=
  (List.range after.size).filter fun row =>
    after.get? row = some .pending && before.get? row ≠ some .pending

/-- The moments that a run can come to from a given one, with the rows that turned pending on the
way, in order of time. -/
inductive History (entries : List Entry) (plan : Plan) (start : Moment) :
    List Nat → Moment → Prop where
  | start : History entries plan start [] start
  | move {claims : List Nat} {m next : Moment} : History entries plan start claims m →
      Move entries plan m next →
      History entries plan start (claims ++ turned m.ledger next.ledger) next

theorem History.trans {entries : List Entry} {plan : Plan} {start middle final : Moment}
    {front back : List Nat} (hfront : History entries plan start front middle)
    (hback : History entries plan middle back final) :
    History entries plan start (front ++ back) final := by
  induction hback with
  | start => simpa using hfront
  | move _ hmove ih =>
      rw [← List.append_assoc]
      exact .move ih hmove

/-- Following the clock to the end is a history. -/
theorem exists_history_last (entries : List Entry) (plan : Plan) (m : Moment) :
    ∃ claims, History entries plan m claims (last entries plan m) := by
  fun_induction last entries plan m with
  | case1 m _ => exact ⟨[], .start⟩
  | case2 m next hstep ih =>
      obtain ⟨claims, hclaims⟩ := ih
      exact ⟨_, (History.start.move (.own hstep)).trans hclaims⟩

theorem over_last (entries : List Entry) (plan : Plan) (m : Moment) :
    Over entries plan (last entries plan m) := by
  fun_induction last entries plan m with
  | case1 m hstep => exact hstep
  | case2 m next _ ih => exact ih

end Run

namespace Batch
open Run

/-- What a run of the batch may leave, whatever the order of the answers. -/
def MayRun (plan : Plan) (batch after : Batch) (account : Account) : Prop :=
  ∃ claims m, History batch.entries plan (first plan batch) claims m ∧
    Over batch.entries plan m ∧ batch.conclude plan m = (after, account)

theorem mayRun_run (plan : Plan) (batch : Batch) :
    batch.MayRun plan (batch.run plan).1 (batch.run plan).2 := by
  obtain ⟨claims, hclaims⟩ := exists_history_last batch.entries plan (first plan batch)
  exact ⟨claims, _, hclaims, over_last .., rfl⟩

/-- What any number of runs, one after the other, may make of a batch. -/
inductive MayBecome (batch : Batch) : List Account → Batch → Prop where
  | fresh : MayBecome batch [] batch
  | run {plan : Plan} {accounts : List Account} {account : Account} {current after : Batch} :
      MayBecome batch accounts current → current.MayRun plan after account →
      MayBecome batch (accounts ++ [account]) after

end Batch

/-- A run of the batch that a session holds, whether it is watched from where the batch is or the
batch is given away to it. -/
theorem Session.mayRun {session : Session} (plan : Plan) (hheld : session.givenAway = false) :
    session.batch.MayRun plan (session.run plan).1.view (session.run plan).2 ∧
      session.batch.MayRun plan (session.spawn plan).1.view (session.spawn plan).2 := by
  have hview : (session.run plan).1.view = (session.batch.run plan).1 := by
    simp only [Session.run, hheld]
    rfl
  refine ⟨?_, ?_⟩
  · rw [hview]
    exact session.batch.mayRun_run plan
  · rw [show (session.spawn plan).1.view = (session.run plan).1.view from rfl, hview]
    exact session.batch.mayRun_run plan

/-- A small batch to look at: three rows that are valid, and one between them that is not. -/
def Batch.small : Batch :=
  .ofEntries
    [⟨⟨2, "ann@example.com", "viewer", none, none⟩, .valid⟩,
      ⟨⟨3, "", "viewer", none, none⟩, .invalid ["identifier required"]⟩,
      ⟨⟨4, "bob@example.com", "viewer", none, none⟩, .valid⟩,
      ⟨⟨5, "cyd@example.com", "viewer", none, none⟩, .valid⟩]

end Enrolment

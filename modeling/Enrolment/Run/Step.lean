import Enrolment.Run.Moment

/-!
The steps of a run. While there is room, the next row is claimed; else the first row that can go
on does so: it starts its call, or the status that its call gave is entered. If no row can go on,
the clock moves to the next instant at which a call is over. Each step leaves less work.
-/

namespace Enrolment
namespace Run

/-- Claim a row: it turns pending and joins the rows that can go on. A row that was claimed before
is skipped. -/
def claim (plan : Plan) (m : Moment) (row : Nat) (rest : List Nat) : Moment :=
  match m.ledger.transition row .pending with
  | .ok ledger =>
      { ledger
        progress :=
          { m.progress.publish plan row .pending with
            remaining := rest
            ready := m.progress.ready ++ [.claimed row] } }
  | .error _ => { m with progress := { m.progress with remaining := rest } }

/-- Start the call of a claimed row. If it is over at once the row goes on in the next step. -/
def start (plan : Plan) (record : Record) (m : Moment) (row : Nat) (rest : List Ready) : Moment :=
  let p := m.progress
  let (span, resolution) :=
    (plan.service p.calls.length record).resolve plan.policy.timeout
  let noted : Progress :=
    { p with
      calls := p.calls ++
        [⟨row, record, m.ledger.statuses.count .pending, p.underWay + 1⟩]
      cancelled := p.cancelled || plan.cancellation.byCall (p.calls.length + 1) }
  if span = 0 then
    { m with progress := { noted with ready := .resolved row resolution :: rest } }
  else
    { m with
      progress :=
        { noted with
          ready := rest
          waiting := p.waiting ++ [⟨row, p.clock + span, resolution⟩] } }

/-- Enter what a call gave. A call that timed out never came to its end. -/
def finish (plan : Plan) (m : Moment) (row : Nat) (resolution : Resolution)
    (rest : List Ready) : Moment :=
  let p := m.progress
  let ended : Progress :=
    { p with
      ready := rest
      ends := match resolution with
        | .ended _ => p.ends ++ [row]
        | .timedOut => p.ends }
  match resolution.status? plan.policy.timeout with
  | none => { m with progress := { ended with crashed := true } }
  | some status =>
      match m.ledger.transition row status with
      | .ok ledger => { ledger, progress := ended.publish plan row status }
      | .error _ => { m with progress := ended }

def nextInstant (first : Waiting) (others : List Waiting) : Nat :=
  others.foldl (fun instant w => min instant w.overAt) first.overAt

def moveClock (plan : Plan) (m : Moment) (instant : Nat) : Moment :=
  let p := m.progress
  { m with
    progress :=
      { p with
        clock := instant
        cancelled := p.cancelled || plan.cancellation.byTime instant ||
          plan.cancellation.byUpdates p.updates.length
        ready := (p.waiting.filter fun w => w.overAt ≤ instant).map
          fun w => .resolved w.row w.resolution
        waiting := p.waiting.filter fun w => !decide (w.overAt ≤ instant) } }

def proceed (entries : List Entry) (plan : Plan) (m : Moment) : Option Moment :=
  match m.progress.ready with
  | .claimed row :: rest =>
      match entries[row]? with
      | some entry => some (start plan entry.record m row rest)
      | none => some { m with progress := { m.progress with ready := rest } }
  | .resolved row resolution :: rest => some (finish plan m row resolution rest)
  | [] =>
      match m.progress.waiting with
      | [] => none
      | first :: others => some (moveClock plan m (nextInstant first others))

/-- One step of a run; nothing once it is over. A cancelled run takes no more rows. -/
def step (entries : List Entry) (plan : Plan) (m : Moment) : Option Moment :=
  if m.progress.crashed then
    none
  else if m.progress.inProgress < plan.policy.slots then
    match m.progress.remaining with
    | row :: rest =>
        if m.progress.cancelled then
          some { m with progress := { m.progress with remaining := [] } }
        else
          some (claim plan m row rest)
    | [] => proceed entries plan m
  else
    proceed entries plan m

end Run
end Enrolment

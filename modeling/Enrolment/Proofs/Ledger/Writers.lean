import Mathlib.Data.Set.Operations
import Mathlib.Logic.Pairwise
import Enrolment.Proofs.Ledger.Requests

/-!
Several writers at one ledger. What a request for a row is answered depends on that row alone, and
it changes no other; so writers that keep to rows of their own do not notice each other, whatever
the order in which their requests come.
-/

namespace Enrolment
namespace Ledger

/-- The row that a request is for, if it is for a single one. -/
def Request.row? : Request → Option Nat
  | transition row _ => some row
  | get row => some row
  | snapshot => none
  | size => none

/-- The schedule is the writers' requests in some order that keeps to the order of each writer. -/
def Interleaves {ι : Type} [DecidableEq ι] (requests : ι → List Request)
    (schedule : List (ι × Request)) : Prop :=
  ∀ writer, (schedule.filter fun turn => turn.1 = writer).map Prod.snd = requests writer

/-- What one of the writers is answered, in order. -/
def answersTo {ι : Type} [DecidableEq ι] (ledger : Ledger) (writer : ι)
    (schedule : List (ι × Request)) : List Answer :=
  ((schedule.zip (ledger.answers (schedule.map Prod.snd))).filter
    fun turn => turn.1.1 = writer).map Prod.snd

/-- Each writer keeps to rows of its own. -/
structure Apart {ι : Type} (requests : ι → List Request) (rows : ι → Set Nat) : Prop where
  within : ∀ writer, ∀ request ∈ requests writer, ∃ row ∈ rows writer, request.row? = some row
  disjoint : Pairwise fun writer other => ∀ row ∈ rows writer, row ∉ rows other

/-- The two ledgers have the same rows, and the same statuses for the given ones. -/
structure Agree (rows : Set Nat) (left right : Ledger) : Prop where
  size : left.size = right.size
  status : ∀ row ∈ rows, left.get? row = right.get? row

section
variable {left right : Ledger} {request : Request} {row : Nat} {rows : Set Nat}

theorem size_perform (ledger : Ledger) (request : Request) :
    (ledger.perform request).2.size = ledger.size :=
  (ledger.leadsTo_perform request).size_eq

/-- A request for a row leaves every other row as it is. -/
theorem get?_perform_of_ne (ledger : Ledger) {other : Nat} (hrow : request.row? = some row)
    (hother : other ≠ row) : (ledger.perform request).2.get? other = ledger.get? other := by
  rcases ledger.perform_cases request with ⟨own, next, changed, rfl, hchange, h⟩ | ⟨_, h⟩
  · obtain rfl : own = row := Option.some.inj hrow
    rw [h, get?_of_transition hchange, if_neg hother]
  · rw [h]

/-- What a request for a row is answered, and what becomes of the row, depends on nothing but the
status of the row and the size of the ledger. -/
theorem perform_congr (hrow : request.row? = some row) (hsize : left.size = right.size)
    (hstatus : left.get? row = right.get? row) :
    (left.perform request).1 = (right.perform request).1 ∧
      (left.perform request).2.get? row = (right.perform request).2.get? row := by
  cases request with
  | snapshot | size => cases hrow
  | get own =>
      obtain rfl : own = row := Option.some.inj hrow
      exact ⟨congrArg Answer.status hstatus, hstatus⟩
  | transition own next =>
      obtain rfl : own = row := Option.some.inj hrow
      have hcongr : ∀ error, left.transition own next = .error error ↔
          right.transition own next = .error error := by
        intro error
        rw [transition_eq_error_iff, transition_eq_error_iff, hsize, hstatus]
      cases hleft : left.transition own next with
      | error error =>
          have hright := (hcongr error).1 hleft
          simp only [perform, hleft, hright, true_and]
          exact hstatus
      | ok after =>
          cases hright : right.transition own next with
          | error error =>
              rw [(hcongr error).2 hright] at hleft
              cases hleft
          | ok after' =>
              simp only [perform, hleft, hright, true_and]
              rw [get?_of_transition hleft, get?_of_transition hright, if_pos rfl, if_pos rfl]

theorem Agree.perform_own (h : Agree rows left right) (hrow : request.row? = some row)
    (hown : row ∈ rows) : (left.perform request).1 = (right.perform request).1 ∧
      Agree rows (left.perform request).2 (right.perform request).2 := by
  obtain ⟨hanswer, hstatus⟩ := perform_congr hrow h.size (h.status row hown)
  refine ⟨hanswer, by rw [size_perform, size_perform, h.size], fun other hother => ?_⟩
  by_cases hsame : other = row
  · rw [hsame, hstatus]
  · rw [get?_perform_of_ne left hrow hsame, get?_perform_of_ne right hrow hsame]
    exact h.status other hother

theorem Agree.perform_other (h : Agree rows left right) (hrow : request.row? = some row)
    (hother : row ∉ rows) : Agree rows (left.perform request).2 right := by
  refine ⟨(size_perform left request).trans h.size, fun own hown => ?_⟩
  have hne : own ≠ row := fun hsame => hother (hsame ▸ hown)
  rw [get?_perform_of_ne left hrow hne]
  exact h.status own hown

end

section
variable {ι : Type} [DecidableEq ι] {shared alone ledger : Ledger} {writer : ι} {rows : Set Nat}
variable {schedule : List (ι × Request)}

/-- A writer that keeps to its rows, among others that keep out of them, is answered as by a ledger
of its own, and its rows are as there. -/
theorem Agree.after (h : Agree rows shared alone)
    (hown : ∀ turn ∈ schedule, turn.1 = writer → ∃ row ∈ rows, turn.2.row? = some row)
    (hothers : ∀ turn ∈ schedule, turn.1 ≠ writer → ∃ row, row ∉ rows ∧ turn.2.row? = some row) :
    shared.answersTo writer schedule =
        alone.answers ((schedule.filter fun turn => turn.1 = writer).map Prod.snd) ∧
      Agree rows (shared.after (schedule.map Prod.snd))
        (alone.after ((schedule.filter fun turn => turn.1 = writer).map Prod.snd)) := by
  induction schedule generalizing shared alone with
  | nil => exact ⟨rfl, h⟩
  | cons turn schedule ih =>
      obtain ⟨who, request⟩ := turn
      have hlater := fun turn hturn => hown turn (List.mem_cons_of_mem _ hturn)
      have hlaterOthers := fun turn hturn => hothers turn (List.mem_cons_of_mem _ hturn)
      by_cases hwho : who = writer
      · obtain ⟨row, hrow, hrequest⟩ := hown _ List.mem_cons_self hwho
        obtain ⟨hanswer, hagree⟩ := h.perform_own hrequest hrow
        obtain ⟨hanswers, hafter⟩ := ih hagree hlater hlaterOthers
        rw [List.filter_cons_of_pos (by simpa using hwho)]
        refine ⟨?_, hafter⟩
        rw [answersTo, List.map_cons, answers, List.zip_cons_cons,
          List.filter_cons_of_pos (by simpa using hwho), List.map_cons, List.map_cons, answers,
          hanswer]
        exact congrArg _ hanswers
      · obtain ⟨row, hrow, hrequest⟩ := hothers _ List.mem_cons_self hwho
        obtain ⟨hanswers, hafter⟩ := ih (h.perform_other hrequest hrow) hlater hlaterOthers
        rw [List.filter_cons_of_neg (by simpa using hwho)]
        refine ⟨?_, hafter⟩
        rw [answersTo, List.map_cons, answers, List.zip_cons_cons,
          List.filter_cons_of_neg (by simpa using hwho)]
        exact hanswers

/-- A row that no request is for is left as it is. -/
theorem get?_after_of_ne {row : Nat} {requests : List Request}
    (h : ∀ request ∈ requests, ∃ own, own ≠ row ∧ request.row? = some own) :
    (ledger.after requests).get? row = ledger.get? row := by
  induction requests generalizing ledger with
  | nil => rfl
  | cons request requests ih =>
      obtain ⟨own, hne, hrequest⟩ := h request List.mem_cons_self
      change ((ledger.perform request).2.after requests).get? row = _
      rw [ih fun later hlater => h later (List.mem_cons_of_mem _ hlater),
        get?_perform_of_ne ledger hrequest (Ne.symm hne)]

variable {requests : ι → List Request}

theorem Interleaves.mem (h : Interleaves requests schedule) {turn : ι × Request}
    (hturn : turn ∈ schedule) : turn.2 ∈ requests turn.1 := by
  rw [← h turn.1]
  exact List.mem_map_of_mem (List.mem_filter.2 ⟨hturn, by simp⟩)

variable {rows : ι → Set Nat}

/-- Among the others each writer is as it would be alone. -/
theorem Apart.isolated (hapart : Apart requests rows) (h : Interleaves requests schedule)
    (ledger : Ledger) (writer : ι) :
    ledger.answersTo writer schedule = ledger.answers (requests writer) ∧
      Agree (rows writer) (ledger.after (schedule.map Prod.snd))
        (ledger.after (requests writer)) := by
  have hown : ∀ turn ∈ schedule, turn.1 = writer →
      ∃ row ∈ rows writer, turn.2.row? = some row := by
    rintro ⟨_, request⟩ hturn rfl
    exact hapart.within _ request (h.mem hturn)
  have hothers : ∀ turn ∈ schedule, turn.1 ≠ writer →
      ∃ row, row ∉ rows writer ∧ turn.2.row? = some row := by
    intro turn hturn hne
    obtain ⟨row, hrow, hrequest⟩ := hapart.within _ _ (h.mem hturn)
    exact ⟨row, hapart.disjoint hne row hrow, hrequest⟩
  have hsame : Agree (rows writer) ledger ledger := ⟨rfl, fun _ _ => rfl⟩
  have halone := hsame.after hown hothers
  rwa [h writer] at halone

theorem Apart.untouched (hapart : Apart requests rows) (h : Interleaves requests schedule)
    {row : Nat} (hrow : ∀ writer, row ∉ rows writer) :
    (ledger.after (schedule.map Prod.snd)).get? row = ledger.get? row := by
  apply get?_after_of_ne
  intro request hrequest
  obtain ⟨turn, hturn, rfl⟩ := List.mem_map.1 hrequest
  obtain ⟨own, hown, hrequest⟩ := hapart.within _ _ (h.mem hturn)
  exact ⟨own, fun hsame => hrow turn.1 (hsame ▸ hown), hrequest⟩

end

/-- Writers that keep to rows of their own, at a ledger in any state. In whatever order their
requests come, each writer is answered just as it would be alone, and its rows become just what they
would become alone; every other row stays. So the ledger becomes the same in every order. -/
theorem writers_do_not_interfere {ι : Type} [DecidableEq ι] {requests : ι → List Request}
    {rows : ι → Set Nat} (hapart : Apart requests rows) (ledger : Ledger) :
    (∀ schedule, Interleaves requests schedule →
      (∀ writer, ledger.answersTo writer schedule = ledger.answers (requests writer) ∧
        ∀ row ∈ rows writer, (ledger.after (schedule.map Prod.snd)).get? row =
          (ledger.after (requests writer)).get? row) ∧
      ∀ row, (∀ writer, row ∉ rows writer) →
        (ledger.after (schedule.map Prod.snd)).get? row = ledger.get? row) ∧
    ∀ schedule other, Interleaves requests schedule → Interleaves requests other →
      ledger.after (schedule.map Prod.snd) = ledger.after (other.map Prod.snd) := by
  refine ⟨fun schedule h => ⟨fun writer => ?_, fun row => hapart.untouched h⟩, ?_⟩
  · obtain ⟨hanswers, hagree⟩ := hapart.isolated h ledger writer
    exact ⟨hanswers, hagree.status⟩
  · intro schedule other h hother
    apply ext_get?
    intro row
    by_cases hrow : ∃ writer, row ∈ rows writer
    · obtain ⟨writer, hrow⟩ := hrow
      rw [(hapart.isolated h ledger writer).2.status row hrow,
        (hapart.isolated hother ledger writer).2.status row hrow]
    · have hfree : ∀ writer, row ∉ rows writer := fun writer hmem => hrow ⟨writer, hmem⟩
      rw [hapart.untouched h hfree, hapart.untouched hother hfree]

/-- Two writers at three rows, one of which is out of range: the first claims a row and ends it, the
second moves as it must not. -/
def neighbours : Bool → List Request
  | true => [.transition 0 .pending, .get 0, .transition 0 .succeeded]
  | false => [.transition 1 .succeeded, .transition 1 .pending, .transition 7 .pending]

def neighbourRows : Bool → Set Nat
  | true => {row | row = 0}
  | false => {row | 0 < row}

theorem neighbours_apart : Apart neighbours neighbourRows := by
  refine ⟨?_, ?_⟩
  · intro writer request hrequest
    cases writer <;>
      simp only [neighbours, List.mem_cons, List.not_mem_nil, or_false] at hrequest <;>
      rcases hrequest with rfl | rfl | rfl <;>
      exact ⟨_, by simp [neighbourRows], rfl⟩
  · intro writer other hne row hrow hother
    cases writer <;> cases other <;>
      simp only [neighbourRows, Set.mem_ofPred_eq, ne_eq, not_true] at hne hrow hother <;> omega

/-- One order of their requests. -/
def neighbourSchedule : List (Bool × Request) :=
  [(false, .transition 1 .succeeded), (true, .transition 0 .pending), (true, .get 0),
    (false, .transition 1 .pending), (false, .transition 7 .pending),
    (true, .transition 0 .succeeded)]

theorem neighbourSchedule_interleaves : Interleaves neighbours neighbourSchedule := by
  intro writer
  cases writer <;> rfl

/-- The second writer is refused twice, and none of this is noticed by the first. -/
theorem writers_do_not_interfere_of_neighbours :
    Apart neighbours neighbourRows ∧ Interleaves neighbours neighbourSchedule ∧
      (blank 3).answersTo false neighbourSchedule =
        [.refused (.invalidTransition 1 .notSubmitted .succeeded), .moved,
          .refused (.rowOutOfRange 7 3)] ∧
      (blank 3).answersTo true neighbourSchedule = [.moved, .status (some .pending), .moved] ∧
      ((blank 3).after (neighbourSchedule.map Prod.snd)).get? 0 = some .succeeded ∧
      (blank 3).after (neighbourSchedule.map Prod.snd) =
        (blank 3).after (neighbours true ++ neighbours false) := by
  obtain ⟨halone, hsame⟩ := writers_do_not_interfere neighbours_apart (blank 3)
  obtain ⟨hwriters, _⟩ := halone _ neighbourSchedule_interleaves
  have hblocks : Interleaves neighbours
      ((neighbours true).map (true, ·) ++ (neighbours false).map (false, ·)) := by
    intro writer
    cases writer <;> rfl
  refine ⟨neighbours_apart, neighbourSchedule_interleaves, ?_, ?_, ?_,
    hsame _ _ neighbourSchedule_interleaves hblocks⟩
  · rw [(hwriters false).1]
    decide
  · rw [(hwriters true).1]
    decide
  · rw [(hwriters true).2 0 rfl]
    decide

end Ledger
end Enrolment

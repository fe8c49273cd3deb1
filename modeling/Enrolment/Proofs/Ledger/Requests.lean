import Mathlib.Data.List.Destutter
import Enrolment.Proofs.Ledger

/-!
A ledger that serves requests, one after the other. A refused change leaves it as it was, an
accepted one moves one row one step on in its life, and to look at it changes nothing. So no row
ever goes back, a final status stays for good, and no row is moved more than twice.
-/

namespace Enrolment

namespace Status

/-- The life of a submission: it is claimed, and then it ends. -/
inductive Precedes : Status → Status → Prop where
  | claim : Precedes notSubmitted pending
  | settle {next : Status} : next.isTerminal = true → Precedes pending next

theorem allows_iff_precedes {current next : Status} :
    current.allows next = true ↔ current.Precedes next := by
  constructor
  · intro h
    cases current with
    | notSubmitted =>
        cases next with
        | pending => exact .claim
        | notSubmitted | succeeded | failed _ => cases h
    | pending => exact .settle (terminal_of_pending_allows h)
    | succeeded | failed _ => cases h
  · rintro (_ | hnext)
    · rfl
    · exact (allows_terminal_iff hnext).2 rfl

end Status

/-- A list that may stay where it is or go on by a relation only goes on when what stays is left
out. -/
theorem exists_destutter {α : Type} [DecidableEq α] {R : α → α → Prop} {a : α} {as : List α}
    (h : (a :: as).IsChain fun a b => a = b ∨ R a b) :
    ∃ rest, (a :: as).destutter (· ≠ ·) = a :: rest ∧ (a :: rest).IsChain R ∧
      (a :: rest).getLast? = (a :: as).getLast? := by
  induction as generalizing a with
  | nil => exact ⟨[], rfl, List.isChain_singleton a, rfl⟩
  | cons b bs ih =>
      obtain ⟨hab, hbs⟩ := List.isChain_cons_cons.1 h
      obtain ⟨rest, hrest, hchain, hlast⟩ := ih hbs
      rw [List.destutter_cons'] at hrest
      rw [List.destutter_cons_cons, List.getLast?_cons_cons, ← hlast]
      by_cases hsame : a = b
      · subst hsame
        exact ⟨rest, by rw [if_neg (not_not_intro rfl), hrest], hchain, rfl⟩
      · refine ⟨b :: rest, by rw [if_pos hsame, hrest], ?_, List.getLast?_cons_cons⟩
        exact List.isChain_cons_cons.2 ⟨hab.resolve_left hsame, hchain⟩

namespace Ledger

/-- The ledger when it has served requests, one after the other. -/
def after (ledger : Ledger) (requests : List Request) : Ledger :=
  requests.foldl (fun ledger request => (ledger.perform request).2) ledger

/-- What requests are answered, one after the other. -/
def answers (ledger : Ledger) : List Request → List Answer
  | [] => []
  | request :: requests =>
      (ledger.perform request).1 :: (ledger.perform request).2.answers requests

/-- The status of a row before the first request and after each. -/
def history (ledger : Ledger) (row : Nat) : List Request → List Status
  | [] => (ledger.get? row).toList
  | request :: requests =>
      (ledger.get? row).toList ++ (ledger.perform request).2.history row requests

/-- The statuses that a row passes through, each as long as it stays. -/
def life (ledger : Ledger) (row : Nat) (requests : List Request) : List Status :=
  (ledger.history row requests).destutter (· ≠ ·)

/-- How often the rows of a ledger can still be moved. -/
def movesLeft (ledger : Ledger) : Nat :=
  2 * ledger.statuses.count .notSubmitted + ledger.statuses.count .pending

section
variable {ledger changed : Ledger} {request : Request} {requests : List Request}
variable {row : Nat} {next status : Status}

theorem transition_eq_error_iff {error : LedgerError} :
    ledger.transition row next = .error error ↔
      ledger.size ≤ row ∧ error = .rowOutOfRange row ledger.size ∨
        ∃ current, ledger.get? row = some current ∧ ¬current.Precedes next ∧
          error = .invalidTransition row current next := by
  rw [transition]
  cases hrow : ledger.get? row with
  | none =>
      have hsize : ledger.size ≤ row := List.getElem?_eq_none_iff.1 hrow
      simp only [Except.error.injEq, hsize, true_and, reduceCtorEq, false_and, exists_false,
        or_false]
      exact eq_comm
  | some current =>
      have hsize : ¬ledger.size ≤ row := Nat.not_le.2 (List.getElem?_eq_some_iff.1 hrow).1
      simp only [← Status.allows_iff_precedes, hsize, false_and, false_or, Option.some.injEq,
        exists_eq_left']
      cases hallows : current.allows next with
      | true => simp
      | false =>
          simp only [Bool.false_eq_true, if_false, Except.error.injEq, not_false_iff, true_and]
          exact eq_comm

theorem refused_iff {error : LedgerError} :
    (ledger.perform (.transition row next)).1 = .refused error ↔
      ledger.transition row next = .error error := by
  cases h : ledger.transition row next <;> simp [perform, h]

/-- A change is refused, and nothing is changed, or it is accepted, and just its row is changed. -/
theorem perform_transition_cases (ledger : Ledger) (row : Nat) (next : Status) :
    let served := ledger.perform (.transition row next)
    (∃ error, served.1 = .refused error) ∧ served.2 = ledger ∨
      served.1 = .moved ∧ served.2.get? row = some next ∧
        ∀ other, other ≠ row → served.2.get? other = ledger.get? other := by
  cases h : ledger.transition row next with
  | error error => exact .inl ⟨⟨error, refused_iff.2 h⟩, by simp [perform, h]⟩
  | ok changed =>
      have hserved : ledger.perform (.transition row next) = (.moved, changed) := by
        simp [perform, h]
      rw [hserved]
      refine .inr ⟨rfl, ?_, fun other hother => ?_⟩
      · rw [get?_of_transition h, if_pos rfl]
      · rw [get?_of_transition h, if_neg hother]

/-- What a request does: an accepted change, or nothing. -/
theorem perform_cases (ledger : Ledger) (request : Request) :
    (∃ row next changed, request = .transition row next ∧
      ledger.transition row next = .ok changed ∧ ledger.perform request = (.moved, changed)) ∨
    (ledger.perform request).1 ≠ .moved ∧ (ledger.perform request).2 = ledger := by
  cases request with
  | transition row next =>
      cases h : ledger.transition row next with
      | ok changed => exact .inl ⟨row, next, changed, rfl, h, by simp [perform, h]⟩
      | error error => exact .inr (by simp [perform, h])
  | get _ | snapshot | size => exact .inr (by simp [perform])

theorem leadsTo_perform (ledger : Ledger) (request : Request) :
    ledger.LeadsTo (ledger.perform request).2 := by
  rcases ledger.perform_cases request with ⟨row, next, changed, _, hchange, h⟩ | ⟨_, h⟩
  · rw [h]
    exact .change .refl hchange
  · rw [h]
    exact .refl

theorem leadsTo_after (ledger : Ledger) (requests : List Request) :
    ledger.LeadsTo (ledger.after requests) := by
  induction requests generalizing ledger with
  | nil => exact .refl
  | cons request requests ih => exact (ledger.leadsTo_perform request).trans (ih _)

theorem size_after (ledger : Ledger) (requests : List Request) :
    (ledger.after requests).size = ledger.size :=
  (ledger.leadsTo_after requests).size_eq

theorem after_append (ledger : Ledger) (requests more : List Request) :
    ledger.after (requests ++ more) = (ledger.after requests).after more :=
  List.foldl_append

theorem size_blank (size : Nat) : (blank size).size = size :=
  List.length_replicate

/-- A request leaves a row as it is, or moves it one step on in its life. -/
theorem get?_perform (request : Request) (hrow : ledger.get? row = some status) :
    ∃ next, (ledger.perform request).2.get? row = some next ∧
      (status = next ∨ status.allows next = true) := by
  rcases ledger.perform_cases request with ⟨own, next, changed, _, hchange, h⟩ | ⟨_, h⟩
  · rw [h]
    obtain ⟨current, hcurrent, hallows, _⟩ := transition_eq_ok_iff.1 hchange
    simp only [get?_of_transition hchange]
    by_cases hown : row = own
    · subst hown
      obtain rfl := Option.some.inj (hrow.symm.trans hcurrent)
      exact ⟨next, by simp, .inr hallows⟩
    · exact ⟨status, by rw [if_neg hown, hrow], .inl rfl⟩
  · rw [h]
    exact ⟨status, hrow, .inl rfl⟩

/-- The statuses of a row begin with the one that is found and end with the one that is left, and
each is left as it is or moved one step on. -/
theorem exists_history (requests : List Request) (hrow : ledger.get? row = some status) :
    ∃ rest, ledger.history row requests = status :: rest ∧
      (status :: rest).getLast? = (ledger.after requests).get? row ∧
      (status :: rest).IsChain fun current next =>
        current = next ∨ current.allows next = true := by
  induction requests generalizing ledger status with
  | nil => exact ⟨[], by rw [history, hrow]; rfl, hrow.symm, List.isChain_singleton _⟩
  | cons request requests ih =>
      obtain ⟨next, hnext, hmove⟩ := get?_perform request hrow
      obtain ⟨rest, hhistory, hlast, hchain⟩ := ih hnext
      refine ⟨next :: rest, by rw [history, hrow, hhistory]; rfl, ?_, ?_⟩
      · rw [List.getLast?_cons_cons, hlast]
        rfl
      · exact List.isChain_cons_cons.2 ⟨hmove, hchain⟩

/-- An open row lives as submissions do, and the last that it comes to is what it is left as. -/
theorem life_of_open (requests : List Request) (hrow : ledger.get? row = some .notSubmitted) :
    (ledger.life row requests).getLast? = (ledger.after requests).get? row ∧
      ∃ last, last.isTerminal = true ∧
        ledger.life row requests <+: [.notSubmitted, .pending, last] := by
  obtain ⟨statuses, hhistory, hlast, hchain⟩ := exists_history requests hrow
  obtain ⟨rest, hlife, hallowed, hend⟩ := exists_destutter hchain
  rw [life, hhistory, hlife, hend, hlast]
  refine ⟨rfl, ?_⟩
  rcases Status.life_of_isChain hallowed with rfl | rfl | ⟨last, hterminal, rfl⟩
  · exact ⟨.succeeded, rfl, _, rfl⟩
  · exact ⟨.succeeded, rfl, _, rfl⟩
  · exact ⟨last, hterminal, List.prefix_rfl⟩

theorem movesLeft_of_transition (h : ledger.transition row next = .ok changed) :
    changed.movesLeft + 1 = ledger.movesLeft := by
  obtain ⟨current, hrow, hallows, rfl⟩ := transition_eq_ok_iff.1 h
  obtain ⟨hlt, hget⟩ := List.getElem?_eq_some_iff.1 hrow
  have hmem : ∀ status, current = status → 0 < ledger.statuses.count status := by
    rintro _ rfl
    exact List.count_pos_iff.2 (hget ▸ List.getElem_mem hlt)
  have hopen := hmem .notSubmitted
  have hpending := hmem .pending
  simp only [movesLeft, List.count_set hlt, hget]
  cases Status.allows_iff_precedes.1 hallows with
  | claim =>
      have h := hopen rfl
      simp only [BEq.rfl, beq_iff_eq, reduceCtorEq, if_true, if_false]
      omega
  | settle hterminal =>
      have h := hpending rfl
      cases next with
      | notSubmitted | pending => cases hterminal
      | succeeded | failed _ =>
          simp only [BEq.rfl, beq_iff_eq, reduceCtorEq, if_true, if_false]
          omega

/-- Each accepted change is one of the moves that were left. -/
theorem count_moved_add_movesLeft (ledger : Ledger) (requests : List Request) :
    (ledger.answers requests).count .moved + (ledger.after requests).movesLeft =
      ledger.movesLeft := by
  induction requests generalizing ledger with
  | nil => exact Nat.zero_add _
  | cons request requests ih =>
      have hrest := ih (ledger.perform request).2
      rw [answers, List.count_cons]
      change _ + ((ledger.perform request).2.after requests).movesLeft = _
      rcases ledger.perform_cases request with ⟨row, next, changed, _, hchange, h⟩ | ⟨hmoved, h⟩
      · rw [h] at hrest ⊢
        have hleft := movesLeft_of_transition hchange
        rw [if_pos (beq_self_eq_true _), Nat.add_right_comm, hrest]
        exact hleft
      · rw [h] at hrest ⊢
        rw [if_neg (by simpa using hmoved)]
        exact hrest

theorem movesLeft_blank (size : Nat) : (blank size).movesLeft = 2 * size := by
  simp [movesLeft, blank, List.count_replicate]

end

/-- Whatever a fresh ledger has served, it has kept its size. Each of its rows has passed through a
first part of a life that ends in one final status, and a final status stays whatever follows. A
change is refused just when its row is out of range, or else when the life of a submission does not
allow it, and then nothing has changed; if it is accepted just its row has. To look at the ledger
changes nothing. All in all no row has been moved more than twice. -/
theorem requests_respect_lives (size : Nat) (requests : List Request) :
    ((blank size).after requests).size = size ∧
    (∀ row < size, ((blank size).life row requests).getLast? =
        ((blank size).after requests).get? row ∧
      ∃ last, last.isTerminal = true ∧
        (blank size).life row requests <+: [.notSubmitted, .pending, last]) ∧
    (∀ more row status, ((blank size).after requests).get? row = some status →
      status.isTerminal = true →
      ((blank size).after (requests ++ more)).get? row = some status) ∧
    (∀ row next,
      let ledger := (blank size).after requests
      let served := ledger.perform (.transition row next)
      (∀ error, served.1 = .refused error ↔
        size ≤ row ∧ error = .rowOutOfRange row size ∨
        ∃ current, ledger.get? row = some current ∧ ¬current.Precedes next ∧
          error = .invalidTransition row current next) ∧
      ((∃ error, served.1 = .refused error) ∧ served.2 = ledger ∨
        served.1 = .moved ∧ served.2.get? row = some next ∧
          ∀ other, other ≠ row → served.2.get? other = ledger.get? other)) ∧
    (∀ ledger request, (∀ row next, request ≠ .transition row next) →
      (perform ledger request).2 = ledger) ∧
    ((blank size).answers requests).count .moved ≤ 2 * size := by
  have hsize : ((blank size).after requests).size = size := by rw [size_after, size_blank]
  refine ⟨hsize, ?_, ?_, ?_, ?_, ?_⟩
  · intro row hrow
    exact life_of_open requests (by rw [get?_blank, if_pos hrow])
  · intro more row status hrow hterminal
    rw [after_append]
    exact (leadsTo_after _ more).get?_of_terminal hrow hterminal
  · intro row next ledger served
    refine ⟨fun error => ?_, perform_transition_cases ledger row next⟩
    exact refused_iff.trans (hsize ▸ transition_eq_error_iff)
  · intro ledger request hlook
    rcases ledger.perform_cases request with ⟨row, next, _, hrequest, _⟩ | ⟨_, h⟩
    · exact absurd hrequest (hlook row next)
    · exact h
  · have hcount := count_moved_add_movesLeft (blank size) requests
    rw [movesLeft_blank] at hcount
    omega

end Ledger
end Enrolment

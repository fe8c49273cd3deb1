import Mathlib.Data.List.Chain
import Enrolment.Submission.Ledger

/-!
What a change of the ledger does, and when it is refused. Everything that is proved about runs
reads the ledger through these statements.
-/

namespace Enrolment

namespace Status

theorem allows_pending_iff {current : Status} :
    current.allows .pending = true ↔ current = .notSubmitted := by
  cases current <;> simp [allows]

theorem allows_terminal_iff {current next : Status} (h : next.isTerminal = true) :
    current.allows next = true ↔ current = .pending := by
  cases next with
  | notSubmitted | pending => simp [isTerminal] at h
  | succeeded | failed _ => cases current <;> simp [allows]

theorem not_allows_of_terminal {current next : Status} (h : current.isTerminal = true) :
    current.allows next = false := by
  cases current with
  | notSubmitted | pending => cases h
  | succeeded | failed _ => rfl

theorem terminal_of_pending_allows {next : Status} (h : pending.allows next = true) :
    next.isTerminal = true := by
  cases next with
  | notSubmitted | pending => cases h
  | succeeded | failed _ => rfl

/-- What can become of a row that is open: nothing, or it is claimed and perhaps ends. -/
theorem life_of_isChain {statuses : List Status}
    (h : (notSubmitted :: statuses).IsChain fun current next => current.allows next = true) :
    statuses = [] ∨ statuses = [pending] ∨
      ∃ status, status.isTerminal = true ∧ statuses = [pending, status] := by
  cases statuses with
  | nil => exact .inl rfl
  | cons first rest =>
      obtain ⟨hfirst, hrest⟩ := List.isChain_cons_cons.1 h
      obtain rfl : first = pending := by
        cases first with
        | pending => rfl
        | notSubmitted | succeeded | failed _ => cases hfirst
      cases rest with
      | nil => exact .inr (.inl rfl)
      | cons second rest =>
          obtain ⟨hsecond, hrest⟩ := List.isChain_cons_cons.1 hrest
          have hterminal := terminal_of_pending_allows hsecond
          cases rest with
          | nil => exact .inr (.inr ⟨second, hterminal, rfl⟩)
          | cons third rest =>
              have hthird := (List.isChain_cons_cons.1 hrest).1
              rw [not_allows_of_terminal hterminal] at hthird
              cases hthird

end Status

namespace Ledger

theorem get?_blank (size row : Nat) :
    (blank size).get? row = if row < size then some .notSubmitted else none := by
  simp [get?, blank, List.getElem?_replicate]

theorem ext_get? {left right : Ledger} (h : ∀ row, left.get? row = right.get? row) :
    left = right := by
  cases left with
  | mk ls =>
      cases right with
      | mk rs =>
          congr 1
          exact List.ext_getElem? h

theorem transition_eq_ok_iff {ledger after : Ledger} {row : Nat} {next : Status} :
    ledger.transition row next = .ok after ↔
      ∃ current, ledger.get? row = some current ∧ current.allows next = true ∧
        after = ⟨ledger.statuses.set row next⟩ := by
  rw [transition]
  cases hrow : ledger.get? row with
  | none => simp
  | some current =>
      cases hallows : current.allows next with
      | true =>
          simp only [if_true, Except.ok.injEq, Option.some.injEq, exists_eq_left', hallows,
            true_and]
          exact eq_comm
      | false => simp [hallows]

theorem get?_of_transition {ledger after : Ledger} {row : Nat} {next : Status}
    (h : ledger.transition row next = .ok after) (other : Nat) :
    after.get? other = if other = row then some next else ledger.get? other := by
  obtain ⟨current, hrow, _, rfl⟩ := transition_eq_ok_iff.1 h
  have hlt : row < ledger.statuses.length := (List.getElem?_eq_some_iff.1 hrow).1
  by_cases ho : other = row
  · subst ho
    simp [get?, List.getElem?_set_self hlt]
  · rw [if_neg ho]
    exact List.getElem?_set_ne (fun h => ho h.symm)

theorem size_of_transition {ledger after : Ledger} {row : Nat} {next : Status}
    (h : ledger.transition row next = .ok after) : after.size = ledger.size := by
  obtain ⟨_, _, _, rfl⟩ := transition_eq_ok_iff.1 h
  exact List.length_set

theorem get?_of_claim {ledger after : Ledger} {row : Nat}
    (h : ledger.transition row .pending = .ok after) :
    ledger.get? row = some .notSubmitted := by
  obtain ⟨current, hrow, hallows, _⟩ := transition_eq_ok_iff.1 h
  rwa [Status.allows_pending_iff.1 hallows] at hrow

theorem get?_ne_of_refused {ledger : Ledger} {row : Nat} {error : LedgerError}
    (h : ledger.transition row .pending = .error error) :
    ledger.get? row ≠ some .notSubmitted := by
  intro hrow
  have hok : ledger.transition row .pending = .ok ⟨ledger.statuses.set row .pending⟩ :=
    transition_eq_ok_iff.2 ⟨.notSubmitted, hrow, rfl, rfl⟩
  rw [hok] at h
  cases h

theorem exists_refused {ledger : Ledger} {row : Nat}
    (h : ledger.get? row ≠ some .notSubmitted) :
    ∃ error, ledger.transition row .pending = .error error := by
  cases htransition : ledger.transition row .pending with
  | error error => exact ⟨error, rfl⟩
  | ok after => exact absurd (get?_of_claim htransition) h

/-- No change of the ledger reaches a row whose status is final. -/
theorem get?_of_terminal {ledger after : Ledger} {row : Nat} {next : Status}
    (h : ledger.transition row next = .ok after) {other : Nat} {status : Status}
    (hother : ledger.get? other = some status) (hstatus : status.isTerminal = true) :
    after.get? other = some status := by
  obtain ⟨current, hrow, hallows, _⟩ := transition_eq_ok_iff.1 h
  rw [get?_of_transition h, hother, if_neg]
  rintro rfl
  obtain rfl := Option.some.inj (hrow.symm.trans hother)
  rw [Status.not_allows_of_terminal hstatus] at hallows
  cases hallows

/-- No change of the ledger opens a row. -/
theorem get?_of_open {ledger after : Ledger} {row : Nat} {next : Status}
    (h : ledger.transition row next = .ok after) {other : Nat}
    (hother : after.get? other = some .notSubmitted) :
    ledger.get? other = some .notSubmitted := by
  obtain ⟨current, _, hallows, _⟩ := transition_eq_ok_iff.1 h
  rw [get?_of_transition h] at hother
  split at hother
  · obtain rfl := Option.some.inj hother
    cases current <;> cases hallows
  · exact hother

/-- The status of a pending row can be entered. -/
theorem exists_transition_of_pending {ledger : Ledger} {row : Nat} {next : Status}
    (hrow : ledger.get? row = some .pending) (hnext : next.isTerminal = true) :
    ∃ after, ledger.transition row next = .ok after :=
  ⟨_, transition_eq_ok_iff.2 ⟨.pending, hrow, (Status.allows_terminal_iff hnext).2 rfl, rfl⟩⟩

/-- The ledgers that changes, one after the other, make of a ledger. -/
inductive LeadsTo (ledger : Ledger) : Ledger → Prop where
  | refl : LeadsTo ledger ledger
  | change {middle after : Ledger} {row : Nat} {status : Status} : LeadsTo ledger middle →
      middle.transition row status = .ok after → LeadsTo ledger after

namespace LeadsTo

section
variable {first second third : Ledger}

theorem trans (h : first.LeadsTo second) (h' : second.LeadsTo third) : first.LeadsTo third := by
  induction h' with
  | refl => exact h
  | change _ hchange ih => exact ih.change hchange

theorem size_eq (h : first.LeadsTo second) : second.size = first.size := by
  induction h with
  | refl => rfl
  | change _ hchange ih => exact (size_of_transition hchange).trans ih

theorem get?_of_terminal (h : first.LeadsTo second) {row : Nat} {status : Status}
    (hrow : first.get? row = some status) (hstatus : status.isTerminal = true) :
    second.get? row = some status := by
  induction h with
  | refl => exact hrow
  | change _ hchange ih => exact Ledger.get?_of_terminal hchange ih hstatus

theorem get?_of_open (h : first.LeadsTo second) {row : Nat}
    (hrow : second.get? row = some .notSubmitted) : first.get? row = some .notSubmitted := by
  induction h with
  | refl => exact hrow
  | change _ hchange ih => exact ih (Ledger.get?_of_open hchange hrow)

end

end LeadsTo

end Ledger
end Enrolment

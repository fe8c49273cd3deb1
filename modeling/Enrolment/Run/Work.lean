import Enrolment.Run.Step

/-!
Every step of a run leaves less work than it found, so a run always ends, also when calls never
end, are cancelled or crash.
-/

namespace Enrolment
namespace Run

theorem totalWeight_append (front back : List Ready) :
    Ready.totalWeight (front ++ back) = Ready.totalWeight front + Ready.totalWeight back := by
  induction front with
  | nil => simp [Ready.totalWeight]
  | cons r front ih => simp only [List.cons_append, Ready.totalWeight, ih, Nat.add_assoc]

theorem work_publish (plan : Plan) (p : Progress) (row : Nat) (status : Status) :
    (p.publish plan row status).work = p.work := by
  unfold Progress.publish
  split <;> rfl

theorem work_claim (plan : Plan) (m : Moment) (row : Nat) (rest : List Nat)
    (h : m.progress.remaining = row :: rest) :
    (claim plan m row rest).progress.work < m.progress.work := by
  unfold claim
  split
  · simp only [Progress.work, Progress.publish, h]
    split <;> (simp [totalWeight_append, Ready.totalWeight, Ready.weight]; omega)
  · simp [Progress.work, h]

theorem work_start (plan : Plan) (record : Record) (m : Moment) (row : Nat) (rest : List Ready)
    (h : m.progress.ready = .claimed row :: rest) :
    (start plan record m row rest).progress.work < m.progress.work := by
  simp only [start]
  split
  · simp [Progress.work, Ready.totalWeight, Ready.weight, h]
  · simp only [Progress.work, Ready.totalWeight, Ready.weight, h, List.length_append,
      List.length_singleton]
    omega

theorem work_finish (plan : Plan) (m : Moment) (row : Nat) (resolution : Resolution)
    (rest : List Ready) (h : m.progress.ready = .resolved row resolution :: rest) :
    (finish plan m row resolution rest).progress.work < m.progress.work := by
  simp only [finish]
  split
  · simp [Progress.work, Ready.totalWeight, Ready.weight, h]
  · split
    · simp only [work_publish]
      simp [Progress.work, Ready.totalWeight, Ready.weight, h]
    · simp [Progress.work, Ready.totalWeight, Ready.weight, h]

/-- The clock stops at an instant at which some call is over. -/
theorem exists_overAt_nextInstant (first : Waiting) (others : List Waiting) :
    ∃ w ∈ first :: others, w.overAt = nextInstant first others := by
  have general : ∀ (seen : Waiting) (ws : List Waiting),
      ∃ w ∈ seen :: ws,
        w.overAt = ws.foldl (fun instant w => min instant w.overAt) seen.overAt := by
    intro seen ws
    induction ws generalizing seen with
    | nil => exact ⟨seen, by simp⟩
    | cons v ws ih =>
        by_cases h : seen.overAt ≤ v.overAt
        · obtain ⟨w, hw, he⟩ := ih seen
          refine ⟨w, ?_, by simpa [Nat.min_eq_left h] using he⟩
          rcases List.mem_cons.1 hw with rfl | hw
          · simp
          · simp [hw]
        · obtain ⟨w, hw, he⟩ := ih v
          refine ⟨w, ?_, by simpa [Nat.min_eq_right (Nat.le_of_not_le h)] using he⟩
          rcases List.mem_cons.1 hw with rfl | hw
          · simp
          · simp [hw]
  exact general first others

theorem length_filter_add_length_filter_not (ws : List Waiting) (p : Waiting → Bool) :
    (ws.filter p).length + (ws.filter fun w => !p w).length = ws.length := by
  induction ws with
  | nil => rfl
  | cons w ws ih => cases h : p w <;> simp [h] <;> omega

theorem totalWeight_resolved (ws : List Waiting) :
    Ready.totalWeight (ws.map fun w => Ready.resolved w.row w.resolution) = ws.length := by
  induction ws with
  | nil => rfl
  | cons w ws ih =>
      simp only [List.map_cons, List.length_cons, Ready.totalWeight, ih, Ready.weight]
      omega

theorem work_moveClock (plan : Plan) (m : Moment) (first : Waiting) (others : List Waiting)
    (hready : m.progress.ready = []) (hwaiting : m.progress.waiting = first :: others) :
    (moveClock plan m (nextInstant first others)).progress.work < m.progress.work := by
  have hsplit := length_filter_add_length_filter_not (first :: others)
    fun w => decide (w.overAt ≤ nextInstant first others)
  have hpos : 0 < ((first :: others).filter
      fun w => decide (w.overAt ≤ nextInstant first others)).length := by
    obtain ⟨w, hw, he⟩ := exists_overAt_nextInstant first others
    exact List.length_pos_of_mem (List.mem_filter.2 ⟨hw, by simp [he]⟩)
  simp only [moveClock, Progress.work, hready, hwaiting, totalWeight_resolved,
    Ready.totalWeight]
  omega

theorem work_proceed {entries : List Entry} {plan : Plan} {m next : Moment}
    (h : proceed entries plan m = some next) : next.progress.work < m.progress.work := by
  unfold proceed at h
  split at h
  · next row rest hready =>
      split at h
      · next entry _ =>
          rw [← Option.some.inj h]
          exact work_start plan entry.record m row rest hready
      · rw [← Option.some.inj h]
        simp [Progress.work, Ready.totalWeight, Ready.weight, hready]
  · next row resolution rest hready =>
      rw [← Option.some.inj h]
      exact work_finish plan m row resolution rest hready
  · next hready =>
      split at h
      · simp at h
      · next first others hwaiting =>
          rw [← Option.some.inj h]
          exact work_moveClock plan m first others hready hwaiting

theorem work_lt_of_step {entries : List Entry} {plan : Plan} {m next : Moment}
    (h : step entries plan m = some next) : next.progress.work < m.progress.work := by
  unfold step at h
  split at h
  · simp at h
  · split at h
    · split at h
      · next row rest hremaining =>
          split at h
          · rw [← Option.some.inj h]
            simp [Progress.work, hremaining]
          · rw [← Option.some.inj h]
            exact work_claim plan m row rest hremaining
      · exact work_proceed h
    · exact work_proceed h

end Run
end Enrolment

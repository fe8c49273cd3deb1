import Enrolment.Text.Blank

/-!
Trimming: what it leaves alone, and when it leaves nothing. And the characters up to the blank, which
are so few that they can be tried.
-/

namespace Enrolment
namespace Text

theorem length_trimEnd_le (cs : List Char) : (trimEnd cs).length ≤ cs.length := by
  induction cs with
  | nil => exact Nat.le_refl _
  | cons c cs ih =>
      simp only [trimEnd]
      split
      · split <;> simp
      · next d ds hcs =>
          rw [hcs] at ih
          simp only [List.length_cons] at ih ⊢
          omega

theorem trimStart_eq_self_of_trim {cs : List Char} (h : trim cs = cs) : trimStart cs = cs := by
  have hsuffix : trimStart cs <:+ cs := List.dropWhile_suffix isBlank
  have hlength : cs.length ≤ (trimStart cs).length := by
    have hle := length_trimEnd_le (trimStart cs)
    rw [← trim, h] at hle
    exact hle
  exact hsuffix.eq_of_length (Nat.le_antisymm hsuffix.length_le hlength)

theorem trimEnd_eq_self_of_trim {cs : List Char} (h : trim cs = cs) : trimEnd cs = cs := by
  have hstart := trimStart_eq_self_of_trim h
  rwa [trim, hstart] at h

/-- A trimmed text does not start with a blank. -/
theorem isBlank_head_of_trim {c : Char} {cs : List Char} (h : trim (c :: cs) = c :: cs) :
    isBlank c = false := by
  have hstart := trimStart_eq_self_of_trim h
  cases hblank : isBlank c with
  | false => rfl
  | true =>
      have hsuffix : trimStart (c :: cs) <:+ cs := by
        simp only [trimStart, List.dropWhile_cons, hblank, if_true]
        exact List.dropWhile_suffix isBlank
      rw [hstart] at hsuffix
      have hlength := hsuffix.length_le
      rw [List.length_cons] at hlength
      exact absurd hlength (Nat.not_succ_le_self _)

theorem allBlank_append (front back : List Char) :
    allBlank (front ++ back) = (allBlank front && allBlank back) :=
  List.all_append

theorem trimEnd_cons {c : Char} (hc : isBlank c = false) (cs : List Char) :
    trimEnd (c :: cs) = c :: trimEnd cs := by
  rw [trimEnd]
  split
  · next hcs => rw [hcs, hc, if_neg Bool.false_ne_true]
  · next hcs => rw [hcs]

theorem trimEnd_trimEnd (cs : List Char) : trimEnd (trimEnd cs) = trimEnd cs := by
  induction cs with
  | nil => rfl
  | cons c cs ih =>
      cases hc : isBlank c with
      | false => rw [trimEnd_cons hc, trimEnd_cons hc, ih]
      | true =>
          rw [trimEnd]
          split
          · rw [hc, if_pos rfl]
            rfl
          · next d ds hcs =>
              rw [hcs] at ih
              rw [trimEnd, ih]

/-- Trimming at the start leaves nothing, or a text that does not start with a blank. -/
theorem trimStart_cases (cs : List Char) :
    trimStart cs = [] ∧ allBlank cs = true ∨
      ∃ c rest, trimStart cs = c :: rest ∧ isBlank c = false ∧ allBlank cs = false := by
  induction cs with
  | nil => exact .inl ⟨rfl, rfl⟩
  | cons c cs ih =>
      cases hc : isBlank c with
      | true =>
          have hstart : trimStart (c :: cs) = trimStart cs := List.dropWhile_cons_of_pos hc
          have hall : allBlank (c :: cs) = allBlank cs := by simp [allBlank, hc]
          rw [hstart, hall]
          exact ih
      | false =>
          refine .inr ⟨c, cs, List.dropWhile_cons_of_neg ?_, hc, ?_⟩
          · rw [hc]
            exact Bool.false_ne_true
          · simp [allBlank, hc]

theorem trim_eq_nil_iff {cs : List Char} : trim cs = [] ↔ allBlank cs = true := by
  rcases trimStart_cases cs with ⟨hstart, hall⟩ | ⟨c, rest, hstart, hc, hall⟩
  · simp [trim, hstart, hall, trimEnd]
  · simp [trim, hstart, hall, trimEnd_cons hc]

theorem trim_trim (cs : List Char) : trim (trim cs) = trim cs := by
  rcases trimStart_cases cs with ⟨-, hall⟩ | ⟨c, rest, hstart, hc, -⟩
  · rw [trim_eq_nil_iff.2 hall]
    rfl
  · have htrim : trim cs = c :: trimEnd rest := by rw [trim, hstart, trimEnd_cons hc]
    have hkept : trimStart (c :: trimEnd rest) = c :: trimEnd rest :=
      List.dropWhile_cons_of_neg (by rw [hc]; exact Bool.false_ne_true)
    rw [htrim, trim, hkept, trimEnd_cons hc, trimEnd_trimEnd]

theorem isBlank_of_isDigit {c : Char} (h : c.isDigit = true) : isBlank c = false := by
  have hdigits : ∀ n < 58, 48 ≤ n → isBlank (Char.ofNat n) = false := by decide
  simp only [Char.isDigit, Bool.and_eq_true, decide_eq_true_eq] at h
  have hofNat := hdigits c.toNat (Nat.lt_succ_of_le h.2) h.1
  rwa [Char.ofNat_toNat] at hofNat

/-- A text without blanks has nothing to trim. -/
theorem trim_eq_self {cs : List Char} (h : ∀ c ∈ cs, isBlank c = false) : trim cs = cs := by
  have hend : ∀ cs : List Char, (∀ c ∈ cs, isBlank c = false) → trimEnd cs = cs := by
    intro cs h
    induction cs with
    | nil => rfl
    | cons c cs ih =>
        rw [trimEnd_cons (h c List.mem_cons_self), ih fun d hd => h d (List.mem_cons_of_mem _ hd)]
  have hstart : trimStart cs = cs := by
    cases cs with
    | nil => rfl
    | cons c cs =>
        exact List.dropWhile_cons_of_neg (by
          rw [h c List.mem_cons_self]
          exact Bool.false_ne_true)
  rw [trim, hstart, hend cs h]

/-- What holds of the blank and of the control characters in front of it. -/
theorem forall_low {P : Char → Prop} (h : ∀ n < 33, P (Char.ofNat n)) {c : Char} (hc : c ≤ ' ') :
    P c := by
  have hofNat := h c.toNat (Nat.lt_succ_of_le hc)
  rwa [Char.ofNat_toNat] at hofNat

end Text
end Enrolment

import Enrolment.Settings.Environment

/-!
How numbers and delimiters are written in the environment. A text either spells one or misspells it,
and a misspelt number is told by the first character that does not go with those before it.
-/

namespace Enrolment

/-- A text without the plus sign that it may begin with. -/
def unsigned : List Char → List Char
  | '+' :: cs => cs
  | cs => cs

/-- Digits that make a number of 64 bits, if any at all. -/
def FitDigits (ds : List Char) : Prop :=
  (∀ d ∈ ds, d.isDigit = true) ∧ Nat.ofDigitChars 10 ds 0 < UInt64.size

/-- One digit or more, perhaps behind a plus sign, that make a number of 64 bits. -/
def SpellsNumber (cs : List Char) (n : Nat) : Prop :=
  unsigned cs ≠ [] ∧ FitDigits (unsigned cs) ∧ Nat.ofDigitChars 10 (unsigned cs) 0 = n

def MisspellsNumber (cs : List Char) : NumberProblem → Prop
  | .empty => cs = []
  | .badDigit =>
      cs = ['+'] ∨ ∃ ds c rest, unsigned cs = ds ++ c :: rest ∧ FitDigits ds ∧ c.isDigit = false
  | .tooLarge =>
      ∃ ds d rest, unsigned cs = ds ++ d :: rest ∧ FitDigits ds ∧ d.isDigit = true ∧
        UInt64.size ≤ Nat.ofDigitChars 10 (ds ++ [d]) 0

/-- The tab by one of its names, or one character. -/
def SpellsDelimiter (text : String) (c : Char) : Prop :=
  (text = "tab" ∨ text = "\\t") ∧ c = '\t' ∨ text.toList = [c]

section
variable {cs ds rest : List Char} {c : Char} {n : Nat} {problem : NumberProblem}

theorem le_ofDigitChars (ds : List Char) (n : Nat) : n ≤ Nat.ofDigitChars 10 ds n := by
  induction ds generalizing n with
  | nil => exact Nat.le_refl n
  | cons d ds ih =>
      rw [Nat.ofDigitChars_cons]
      exact Nat.le_trans (by omega) (ih _)

theorem readDigits_append (hds : ∀ d ∈ ds, d.isDigit = true)
    (hfits : Nat.ofDigitChars 10 ds n < UInt64.size) (rest : List Char) :
    readDigits n (ds ++ rest) = readDigits (Nat.ofDigitChars 10 ds n) rest := by
  induction ds generalizing n with
  | nil => rfl
  | cons d ds ih =>
      rw [Nat.ofDigitChars_cons] at hfits ⊢
      have hlater := le_ofDigitChars ds (10 * n + (d.toNat - '0'.toNat))
      rw [List.cons_append, readDigits, hds d List.mem_cons_self]
      simp only [Bool.not_true, Bool.false_eq_true, if_false]
      rw [if_neg (by omega)]
      exact ih (fun e he => hds e (List.mem_cons_of_mem _ he)) hfits

/-- Digits are read up to the end, or to the first character that does not go with them. -/
theorem digits_cases (cs : List Char) (hn : n < UInt64.size) :
    (∀ c ∈ cs, c.isDigit = true) ∧ Nat.ofDigitChars 10 cs n < UInt64.size ∨
      ∃ ds c rest, cs = ds ++ c :: rest ∧ (∀ d ∈ ds, d.isDigit = true) ∧
        Nat.ofDigitChars 10 ds n < UInt64.size ∧
        (c.isDigit = false ∨
          c.isDigit = true ∧ UInt64.size ≤ Nat.ofDigitChars 10 (ds ++ [c]) n) := by
  induction cs generalizing n with
  | nil => exact .inl ⟨nofun, hn⟩
  | cons c cs ih =>
      cases hc : c.isDigit with
      | false => exact .inr ⟨[], c, cs, rfl, nofun, hn, .inl hc⟩
      | true =>
          by_cases hlarge : UInt64.size ≤ 10 * n + (c.toNat - '0'.toNat)
          · exact .inr ⟨[], c, cs, rfl, nofun, hn, .inr ⟨hc, hlarge⟩⟩
          · obtain ⟨hcs, hfits⟩ | ⟨ds, d, rest, rfl, hds, hfits, hd⟩ := ih (Nat.lt_of_not_le hlarge)
            · exact .inl ⟨List.forall_mem_cons.2 ⟨hc, hcs⟩, hfits⟩
            · exact .inr ⟨c :: ds, d, rest, rfl, List.forall_mem_cons.2 ⟨hc, hds⟩, hfits, hd⟩

theorem spells_or_misspells (cs : List Char) :
    (∃ n, SpellsNumber cs n) ∨ ∃ problem, MisspellsNumber cs problem := by
  by_cases hnil : unsigned cs = []
  · by_cases hcs : cs = []
    · exact .inr ⟨.empty, hcs⟩
    · have hplus : cs = ['+'] := by
        unfold unsigned at hnil
        split at hnil
        · rw [hnil]
        · exact absurd hnil hcs
      exact .inr ⟨.badDigit, .inl hplus⟩
  · obtain hfits | ⟨ds, c, rest, hcs, hds, hfits, hbad | hlarge⟩ :=
      digits_cases (unsigned cs) (n := 0) (by decide)
    · exact .inl ⟨_, hnil, hfits, rfl⟩
    · exact .inr ⟨.badDigit, .inr ⟨ds, c, rest, hcs, ⟨hds, hfits⟩, hbad⟩⟩
    · exact .inr ⟨.tooLarge, ds, c, rest, hcs, ⟨hds, hfits⟩, hlarge⟩

/-- Behind a plus sign or not, digits are read alike. -/
theorem readNumber_eq_readDigits (h : unsigned cs ≠ []) :
    readNumber cs = readDigits 0 (unsigned cs) := by
  unfold unsigned at h ⊢
  unfold readNumber
  grind

theorem readNumber_of_spells (h : SpellsNumber cs n) : readNumber cs = .ok n := by
  obtain ⟨hnil, ⟨hdigits, hfits⟩, rfl⟩ := h
  have hread := readDigits_append hdigits hfits []
  rw [List.append_nil] at hread
  rw [readNumber_eq_readDigits hnil, hread, readDigits]

theorem readNumber_of_misspells (h : MisspellsNumber cs problem) :
    readNumber cs = .error problem := by
  cases problem with
  | empty =>
      obtain rfl := h
      rfl
  | badDigit =>
      obtain rfl | ⟨ds, c, rest, hcs, ⟨hdigits, hfits⟩, hc⟩ := h
      · rfl
      · rw [readNumber_eq_readDigits (by simp [hcs]), hcs, readDigits_append hdigits hfits,
          readDigits, hc]
        rfl
  | tooLarge =>
      obtain ⟨ds, d, rest, hcs, ⟨hdigits, hfits⟩, hd, hlarge⟩ := h
      rw [Nat.ofDigitChars_append] at hlarge
      rw [readNumber_eq_readDigits (by simp [hcs]), hcs, readDigits_append hdigits hfits,
        readDigits, hd]
      exact if_pos hlarge

end

section
variable {text : String} {c : Char}

theorem readDelimiter_of_spells (h : SpellsDelimiter text c) : readDelimiter text = .ok c := by
  obtain ⟨hname, rfl⟩ | hchar := h
  · exact if_pos hname
  · have hname : ¬(text = "tab" ∨ text = "\\t") := by
      rintro (rfl | rfl) <;> cases hchar
    rw [readDelimiter, if_neg hname, hchar]

theorem readDelimiter_of_not_spells (h : ¬∃ c, SpellsDelimiter text c) :
    readDelimiter text = .error (.delimiterText text) := by
  have hname : ¬(text = "tab" ∨ text = "\\t") := fun hname => h ⟨'\t', .inl ⟨hname, rfl⟩⟩
  rw [readDelimiter, if_neg hname]
  split
  · next c hchar => exact absurd ⟨c, .inr hchar⟩ h
  · rfl

end
end Enrolment

import Mathlib.Data.List.Basic
import Enrolment.Proofs.Text.Blank
import Enrolment.Text.Normal

/-!
Blanks and control characters in normal forms. They stand for no others, and no mark joins them, so
that the normal form of a text still has all of them.
-/

namespace Enrolment
namespace Text

namespace CodeTable

/-- Whether all images in a row of a table are codes behind the blank. -/
def imagesHigh (row : List Char) : Bool :=
  (splitOn ' ' row).all fun word => (readRun 0 word).images.all (32 < ·)

theorem images_of_readRuns {words : List (List Char)} {before : Nat} {run : CodeRun}
    (h : run ∈ readRuns before words) : ∃ word ∈ words, run.images = (readRun 0 word).images := by
  induction words generalizing before with
  | nil => cases h
  | cons word words ih =>
      rcases List.mem_cons.1 h with rfl | h
      · exact ⟨word, List.mem_cons_self, rfl⟩
      · obtain ⟨other, hother, himages⟩ := ih h
        exact ⟨other, List.mem_cons_of_mem _ hother, himages⟩

theorem images_high {rows : List String} (hrows : ∀ row ∈ rows, imagesHigh row.toList = true)
    {run : CodeRun} (h : run ∈ ofRows rows) : ∀ image ∈ run.images, 32 < image := by
  obtain ⟨word, hword, himages⟩ := images_of_readRuns h
  obtain ⟨row, hrow, hword⟩ := List.mem_flatMap.1 hword
  have hhigh := List.all_eq_true.1 (hrows row hrow) word hword
  rw [himages]
  simpa using hhigh

theorem le_first_of_readRuns {words : List (List Char)} {before : Nat} {run : CodeRun}
    (h : run ∈ readRuns before words) : before ≤ run.first := by
  induction words generalizing before with
  | nil => cases h
  | cons word words ih =>
      rcases List.mem_cons.1 h with rfl | h
      · exact Nat.le_add_right _ _
      · exact Nat.le_trans (Nat.le_add_right _ _) (ih h)

/-- The codes of a table rise, so that its first entry bounds them. -/
theorem le_first {row : String} {rows : List String} {least : Nat}
    (hrow : ((splitOn ' ' row.toList).head?.any fun word => (readRun 0 word).first = least) = true)
    {run : CodeRun} (h : run ∈ ofRows (row :: rows)) : least ≤ run.first := by
  rw [ofRows, List.flatMap_cons] at h
  cases hwords : splitOn ' ' row.toList with
  | nil => simp [hwords] at hrow
  | cons word words =>
      rw [hwords, List.cons_append, readRuns] at h
      have hfirst : (readRun 0 word).first = least := by simpa [hwords] using hrow
      rcases List.mem_cons.1 h with rfl | h
      · exact Nat.le_of_eq hfirst.symm
      · exact Nat.le_trans (Nat.le_of_eq hfirst.symm) (le_first_of_readRuns h)

theorem get?_eq_none {table : CodeTable} {least : Nat} (htable : ∀ run ∈ table, least ≤ run.first)
    {c : Char} (hc : c.toNat < least) : table.get? c = none := by
  have himages : table.images? c.toNat = none := by
    rw [images?, List.findSome?_eq_none_iff]
    intro run hrun
    have hfirst := htable run hrun
    rw [CodeRun.images?, if_neg (by omega)]
  rw [get?, himages, Option.map_none]

end CodeTable

theorem images_composites {run : CodeRun} (h : run ∈ composites) :
    ∀ image ∈ run.images, 32 < image := by
  refine CodeTable.images_high ?_ h
  repeat first
    | exact List.forall_mem_nil _
    | refine List.forall_mem_cons.2 ⟨by rw [String.toList_ofList]; decide +kernel, ?_⟩

theorem first_composites {run : CodeRun} (h : run ∈ composites) : 0xc0 ≤ run.first :=
  CodeTable.le_first (by rw [String.toList_ofList]; decide +kernel) h

theorem first_replaced {run : CodeRun} (h : run ∈ replaced) : 0x340 ≤ run.first :=
  CodeTable.le_first (by rw [String.toList_ofList]; decide +kernel) h

section

variable {c : Char} (hc : c ≤ ' ')
include hc

theorem parts?_of_low : parts? c = none := by
  have hcode : c.toNat ≤ 32 := hc
  have hhangul : hangulParts? c.toNat = none := by
    rw [hangulParts?, if_neg (by omega)]
  have hcomposite : composites.get? c = none :=
    CodeTable.get?_eq_none (fun _ => first_composites) (by omega)
  have hreplaced : replaced.get? c = none :=
    CodeTable.get?_eq_none (fun _ => first_replaced) (by omega)
  rw [parts?, hhangul, hcomposite, hreplaced]
  rfl

theorem pair?_of_low {a b : Char} (hlow : a = c ∨ b = c) : pair? a b = none := by
  have hcode : c.toNat ≤ 32 := hc
  have hhangul : hangulPair? a.toNat b.toNat = none := by
    rcases hlow with rfl | rfl <;>
      rw [hangulPair?, if_neg (by omega), if_neg (by omega)]
  have hfind : composites.find? (·.images = [a.toNat, b.toNat]) = none := by
    rw [List.find?_eq_none]
    intro run hrun himages
    have hhigh := images_composites hrun
    rw [of_decide_eq_true himages] at hhigh
    have hfirst := hhigh a.toNat (by simp)
    have hsecond := hhigh b.toNat (by simp)
    rcases hlow with rfl | rfl <;> omega
  rw [pair?, hhangul, hfind]
  rfl

theorem apart_of_low (depth : Nat) : apart depth c = [c] := by
  cases depth with
  | zero => rfl
  | succ depth => rw [apart, parts?_of_low hc]

omit hc in
theorem mem_settle {d e : Char} {ds : List Char} : d ∈ settle e ds ↔ d = e ∨ d ∈ ds := by
  induction ds with
  | nil => simp [settle]
  | cons f ds ih =>
      rw [settle]
      split
      · rw [List.mem_cons, ih, List.mem_cons]
        tauto
      · simp

theorem mem_decomposed {cs : List Char} (h : c ∈ cs) : c ∈ decomposed cs := by
  have hapart : c ∈ cs.flatMap (apart deepest) :=
    List.mem_flatMap.2 ⟨c, h, by rw [apart_of_low hc]; exact List.mem_singleton_self c⟩
  rw [decomposed]
  generalize cs.flatMap (apart deepest) = ds at hapart ⊢
  induction ds with
  | nil => cases hapart
  | cons d ds ih =>
      rw [List.foldr_cons, mem_settle]
      rcases List.mem_cons.1 hapart with heq | h
      · exact .inl heq
      · exact .inr (ih h)

theorem mem_composeFrom {base : Option Char} {passed cs : List Char}
    (h : base = some c ∨ c ∈ passed ∨ c ∈ cs) : c ∈ composeFrom base passed cs := by
  induction cs generalizing base passed with
  | nil =>
      rw [composeFrom]
      rcases h with rfl | h | h
      · simp
      · exact List.mem_append_right _ h
      · cases h
  | cons d cs ih =>
      rw [composeFrom]
      split
      · next joined hjoined =>
          -- Neither the base nor the mark is the blank, since they were joined.
          have hpair : ∃ b, base = some b ∧ pair? b d = some joined := by
            split at hjoined
            · exact Option.bind_eq_some_iff.1 hjoined
            · cases hjoined
          obtain ⟨b, rfl, hpair⟩ := hpair
          apply ih
          rcases h with h | h | h
          · rw [pair?_of_low hc (.inl (Option.some.inj h))] at hpair
            cases hpair
          · exact .inr (.inl h)
          · rcases List.mem_cons.1 h with rfl | h
            · rw [pair?_of_low hc (.inr rfl)] at hpair
              cases hpair
            · exact .inr (.inr h)
      · split
        · rcases h with rfl | h | h
          · simp
          · exact List.mem_append_left _ (List.mem_append_right _ h)
          · apply List.mem_append_right
            rcases List.mem_cons.1 h with rfl | h
            · exact ih (.inl rfl)
            · exact ih (.inr (.inr h))
        · apply ih
          rcases h with h | h | h
          · exact .inl h
          · exact .inr (.inl (List.mem_append_left _ h))
          · rcases List.mem_cons.1 h with rfl | h
            · exact .inr (.inl (List.mem_append_right _ (List.mem_singleton_self _)))
            · exact .inr (.inr h)

theorem mem_normal {cs : List Char} (h : c ∈ cs) : c ∈ normal cs :=
  mem_composeFrom hc (.inr (.inr (mem_decomposed hc h)))

end

end Text
end Enrolment

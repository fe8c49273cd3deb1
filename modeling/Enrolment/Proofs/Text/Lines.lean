import Enrolment.Text.Lines

/-!
Cutting a text into lines undoes joining lines by line feeds, except that a line loses a carriage
return at its end.
-/

namespace Enrolment
namespace Text

/-- The line without one carriage return at its end. -/
def withoutReturn : List Char → List Char
  | [] => []
  | ['\r'] => []
  | c :: cs => c :: withoutReturn cs

theorem withoutReturn_cons {c : Char} {cs : List Char} (h : c ≠ '\r' ∨ cs ≠ []) :
    withoutReturn (c :: cs) = c :: withoutReturn cs := by
  rw [withoutReturn]
  intro hc hcs
  rcases h with h | h
  · exact h hc
  · exact h hcs

theorem withoutReturn_append_cons (front : List Char) {c : Char} (cs : List Char)
    (hc : c ≠ '\r') : withoutReturn (front ++ c :: cs) = front ++ c :: withoutReturn cs := by
  induction front with
  | nil => exact withoutReturn_cons (.inl hc)
  | cons d ds ih =>
      have hrest : ds ++ c :: cs ≠ [] := by simp
      rw [List.cons_append, withoutReturn_cons (.inr hrest), ih, List.cons_append]

theorem withoutReturn_eq_self {cs : List Char} (h : cs.getLast? ≠ some '\r') :
    withoutReturn cs = cs := by
  induction cs with
  | nil => rfl
  | cons c cs ih =>
      cases cs with
      | nil =>
          apply withoutReturn_cons
          left
          rintro rfl
          exact h rfl
      | cons d ds =>
          rw [withoutReturn_cons (.inr (List.cons_ne_nil d ds)), ih]
          rwa [List.getLast?_cons_cons] at h

/-- Within a line a character belongs to what is read behind it. -/
theorem lines_cons {c : Char} {cs line : List Char} {others : List (List Char)} (hc : c ≠ '\n')
    (hhead : cs.head? ≠ some '\n') (h : lines cs = line :: others) :
    lines (c :: cs) = (c :: line) :: others := by
  rw [lines, h]
  · exact hc
  · rintro _ _ rfl
    exact hhead rfl

theorem lines_append (line rest : List Char) (h : '\n' ∉ line) :
    lines (line ++ '\n' :: rest) = withoutReturn line :: lines rest := by
  induction line with
  | nil => rfl
  | cons c cs ih =>
      rw [List.mem_cons, not_or] at h
      have hc : c ≠ '\n' := fun hc => h.1 hc.symm
      -- Only at the last character of the line does a carriage return count.
      cases cs with
      | nil =>
          by_cases hreturn : c = '\r'
          · subst hreturn
            rfl
          · rw [List.singleton_append, lines, withoutReturn]
            · rfl
            · exact fun h _ => hreturn h
            · exact hc
            · exact fun _ h _ => hreturn h
      | cons d ds =>
          have hd : d ≠ '\n' := fun hd => h.2 (by rw [hd]; exact List.mem_cons_self)
          rw [List.cons_append, lines_cons hc (by simpa using hd) (ih h.2),
            withoutReturn_cons (.inr (List.cons_ne_nil d ds))]

/-- The pieces that a text is cut into: what stands in front of each of its line feeds, and what
stands behind the last one. -/
structure Pieces (cs : List Char) (ended : List (List Char)) (last : List Char) : Prop where
  text_eq : cs = ended.flatMap (· ++ ['\n']) ++ last
  feed_notMem : ∀ piece ∈ ended, '\n' ∉ piece
  feed_notMem_last : '\n' ∉ last

theorem exists_pieces (cs : List Char) : ∃ ended last, Pieces cs ended last := by
  induction cs with
  | nil => exact ⟨[], [], rfl, by simp, by simp⟩
  | cons c cs ih =>
      obtain ⟨ended, last, rfl, hended, hlast⟩ := ih
      by_cases hc : c = '\n'
      · exact ⟨[] :: ended, last, by simp [hc], by simpa using hended, hlast⟩
      · -- The character belongs to the piece behind it, be it the last one or not.
        cases ended with
        | nil => exact ⟨[], c :: last, rfl, by simp, by simp [Ne.symm hc, hlast]⟩
        | cons piece ended =>
            refine ⟨(c :: piece) :: ended, last, by simp, ?_, hlast⟩
            simpa [Ne.symm hc] using hended

theorem Pieces.splitOn_eq {cs last : List Char} {ended : List (List Char)}
    (h : Pieces cs ended last) : cs.splitOn '\n' = ended ++ [last] := by
  obtain ⟨rfl, hended, hlast⟩ := h
  induction ended with
  | nil => exact List.splitOn_eq_singleton hlast
  | cons piece ended ih =>
      rw [List.forall_mem_cons] at hended
      rw [List.flatMap_cons, List.append_assoc, List.append_assoc, List.singleton_append,
        List.splitOn_append_cons_self_of_not_mem hended.1, ih hended.2]
      rfl

theorem lines_of_feed_notMem {line : List Char} (hne : line ≠ []) (h : '\n' ∉ line) :
    lines line = [line] := by
  induction line with
  | nil => exact absurd rfl hne
  | cons c cs ih =>
      rw [List.mem_cons, not_or] at h
      cases cs with
      | nil =>
          rw [lines]
          · rfl
          · exact fun hc => h.1 hc.symm
          · intro _ _ hcs
            cases hcs
      | cons d ds =>
          have hd : d ≠ '\n' := fun hd => h.2 (by rw [hd]; exact List.mem_cons_self)
          exact lines_cons (Ne.symm h.1) (by simpa using hd) (ih (List.cons_ne_nil d ds) h.2)

/-- Each piece that ends at a line feed is a line; what stands behind the last line feed is one
unless it is empty. -/
theorem lines_of_pieces {cs last : List Char} {ended : List (List Char)}
    (h : Pieces cs ended last) :
    lines cs = ended.map withoutReturn ++ if last = [] then [] else [last] := by
  obtain ⟨rfl, hended, hlast⟩ := h
  induction ended with
  | nil =>
      split
      · next hnil =>
          rw [hnil]
          rfl
      · next hne => exact lines_of_feed_notMem hne hlast
  | cons piece ended ih =>
      rw [List.forall_mem_cons] at hended
      rw [List.flatMap_cons, List.append_assoc, List.append_assoc, List.singleton_append,
        lines_append _ _ hended.1, ih hended.2]
      rfl

theorem withoutReturn_concat (cs : List Char) : withoutReturn (cs ++ ['\r']) = cs := by
  induction cs with
  | nil => rfl
  | cons c cs ih =>
      have hne : cs ++ ['\r'] ≠ [] := by simp
      rw [List.cons_append, withoutReturn_cons (.inr hne), ih]

theorem eq_withoutReturn (cs : List Char) :
    cs = withoutReturn cs ∨ cs = withoutReturn cs ++ ['\r'] := by
  rcases List.eq_nil_or_concat cs with rfl | ⟨front, c, rfl⟩
  · exact .inl rfl
  · by_cases hc : c = '\r'
    · right
      rw [List.concat_eq_append, hc, withoutReturn_concat]
    · left
      rw [withoutReturn_eq_self]
      simpa using hc

theorem withoutMark_eq_self {cs : List Char} (h : cs.head? ≠ some '\ufeff') :
    withoutMark cs = cs := by
  rw [withoutMark]
  rintro rest rfl
  exact h rfl

end Text
end Enrolment

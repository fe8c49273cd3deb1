import Mathlib.Data.List.Forall2
import Enrolment.Proofs.Text.Blank
import Enrolment.Proofs.Text.Lines
import Enrolment.Proofs.Table.Quoting
import Enrolment.Table.Sheet

/-!
How the lines of a table end does not matter. A blank at the end of a line is trimmed off its last
cell, or stands in quotes that are never closed, so that one carriage return more or less leaves the
cells of a line as they are; and what a table is read as depends on nothing but the cells of its
lines and on which of them are blank.
-/

namespace Enrolment

namespace Line

/-- What is left of a line behind a cell when a blank is added at the end of the line. If nothing is
left, the blank belongs to the cell. -/
def behind (c : Char) (rest : List Char) : List Char :=
  if rest.isEmpty then [] else rest ++ [c]

section
variable {delimiter c : Char}

theorem behind_cons (d : Char) (rest : List Char) : behind c (d :: rest) = d :: (rest ++ [c]) :=
  rfl

theorem quoted_concat (hc : c ≠ '"') (cs : List Char) :
    quoted (cs ++ [c]) = (quoted cs).map fun cut => (cut.1, cut.2 ++ [c]) := by
  fun_induction quoted cs with
  | case1 =>
      rw [List.nil_append, quoted]
      · rfl
      · exact fun _ h => absurd h hc
      · exact hc
  | case2 cs ih =>
      rw [List.cons_append, List.cons_append, quoted, ih, Option.map_map, Option.map_map]
      rfl
  | case3 cs hcs =>
      rw [List.cons_append, quoted]
      · rfl
      · intro rest h
        cases cs with
        | nil => exact hc (List.cons.inj h).1
        | cons d ds => exact hcs ds (by rw [(List.cons.inj h).1])
  | case4 d ds hpair hd ih =>
      rw [List.cons_append, quoted, ih, Option.map_map, Option.map_map]
      · rfl
      · exact fun _ h => absurd h hd
      · exact hd

theorem upTo_concat (hblank : Text.isBlank c = true) (hc : c ≠ delimiter) (cs : List Char) :
    Text.trimEnd (upTo delimiter (cs ++ [c])).1 = Text.trimEnd (upTo delimiter cs).1 ∧
      (upTo delimiter (cs ++ [c])).2 = behind c (upTo delimiter cs).2 := by
  induction cs with
  | nil => simp [upTo, hc, behind, Text.trimEnd, hblank]
  | cons d ds ih =>
      by_cases hd : d = delimiter
      · simp [upTo, hd, behind]
      · have hupTo : ∀ cs, upTo delimiter (d :: cs) =
            (d :: (upTo delimiter cs).1, (upTo delimiter cs).2) := by
          simp [upTo, hd]
        rw [List.cons_append, hupTo, hupTo, Text.trimEnd, ih.1, ih.2, Text.trimEnd]
        exact ⟨rfl, rfl⟩

theorem skipBlanks_concat (hblank : Text.isBlank c = true) (hc : c ≠ delimiter)
    (cs : List Char) :
    skipBlanks delimiter (cs ++ [c]) = behind c (skipBlanks delimiter cs) := by
  induction cs with
  | nil => simp [skipBlanks, hblank, hc, behind]
  | cons d ds ih =>
      by_cases hd : d ≠ delimiter ∧ Text.isBlank d = true
      · have hskip : ∀ cs, skipBlanks delimiter (d :: cs) = skipBlanks delimiter cs := by
          simp [skipBlanks, hd]
        rw [List.cons_append, hskip, hskip, ih]
      · have hstay : d = delimiter ∨ Text.isBlank d = false := by
          simpa [Classical.or_iff_not_imp_left] using hd
        rw [List.cons_append, skipBlanks_cons_eq_self _ hstay, skipBlanks_cons_eq_self _ hstay,
          behind_cons]

theorem firstCell_concat (hblank : Text.isBlank c = true) (hc : c ≠ delimiter)
    (cs : List Char) : firstCell delimiter (cs ++ [c]) =
      (firstCell delimiter cs).map fun cut => (cut.1, behind c cut.2) := by
  have hskip := skipBlanks_concat hblank hc cs
  cases hcs : skipBlanks delimiter cs with
  | nil =>
      rw [hcs] at hskip
      rw [firstCell, firstCell, hskip, hcs]
      rfl
  | cons d ds =>
      rw [hcs, behind_cons] at hskip
      by_cases hd : d = '"'
      · subst hd
        have hquote : c ≠ '"' := by
          rintro rfl
          cases hblank
        rw [firstCell, firstCell, hskip, hcs]
        simp only [quoted_concat hquote, Option.map_map]
        congr 1
        funext cut
        obtain ⟨hcell, hrest⟩ := upTo_concat hblank hc cut.2
        simp only [Function.comp, hcell, hrest]
      · obtain ⟨hcell, hrest⟩ := upTo_concat hblank hc (d :: ds)
        rw [firstCell_of_bare hskip (by simpa using hd), firstCell_of_bare hcs (by simpa using hd),
          ← List.cons_append, hcell, hrest, Option.map_some]

theorem split_concat (hblank : Text.isBlank c = true) (hc : c ≠ delimiter) (line : List Char) :
    split delimiter (line ++ [c]) = split delimiter line := by
  have hfirst := firstCell_concat hblank hc
  fun_induction split delimiter line with
  | case1 line hnone => exact split_of_none (by rw [hfirst, hnone]; rfl)
  | case2 line cell hlast => exact split_of_last (by rw [hfirst, hlast]; rfl)
  | case3 line cell d rest hmore ih =>
      have hcell : firstCell delimiter (line ++ [c]) = some (cell, d :: (rest ++ [c])) := by
        rw [hfirst, hmore]
        rfl
      rw [split_of_more hcell, ih]

end

end Line

namespace Text

/-- The text with a carriage return in front of each line feed. -/
def withReturns (cs : List Char) : List Char :=
  cs.flatMap fun c => if c = '\n' then ['\r', '\n'] else [c]

theorem withReturns_eq_self {cs : List Char} (h : '\n' ∉ cs) : withReturns cs = cs := by
  induction cs with
  | nil => rfl
  | cons c cs ih =>
      rw [List.mem_cons, not_or] at h
      have hcs := ih h.2
      rw [withReturns] at hcs ⊢
      rw [List.flatMap_cons, hcs, if_neg (Ne.symm h.1), List.singleton_append]

section
variable {cs last : List Char} {ended : List (List Char)} (h : Pieces cs ended last)
include h

theorem Pieces.withReturns :
    Pieces (withReturns cs) (ended.map (· ++ ['\r'])) last := by
  obtain ⟨rfl, hended, hlast⟩ := h
  refine ⟨?_, by simpa using hended, hlast⟩
  induction ended with
  | nil => exact withReturns_eq_self hlast
  | cons piece ended ih =>
      rw [List.forall_mem_cons] at hended
      have hpiece := withReturns_eq_self hended.1
      have hrest := ih hended.2
      simp only [Text.withReturns] at hpiece hrest ⊢
      simp only [List.flatMap_cons, List.flatMap_append, List.append_assoc, hpiece, List.map_cons]
        at hrest ⊢
      rw [hrest]
      rfl

theorem Pieces.concat : Pieces (cs ++ ['\n']) (ended ++ [last]) [] := by
  obtain ⟨rfl, hended, hlast⟩ := h
  refine ⟨by simp, ?_, List.not_mem_nil⟩
  intro piece hpiece
  rcases List.mem_append.1 hpiece with hpiece | hpiece
  · exact hended piece hpiece
  · rwa [List.mem_singleton.1 hpiece]

end

theorem withoutMark_withReturns (cs : List Char) :
    withoutMark (withReturns cs) = withReturns (withoutMark cs) := by
  cases cs with
  | nil => rfl
  | cons c cs =>
      by_cases hmark : c = '\ufeff'
      · rw [hmark]
        rfl
      · have hself : withoutMark (c :: cs) = c :: cs :=
          withoutMark_eq_self (by simpa using hmark)
        rw [hself, withoutMark_eq_self]
        by_cases hc : c = '\n'
        · rw [hc]
          exact fun h => by cases h
        · simpa [withReturns, hc] using hmark

theorem withoutMark_append {cs : List Char} (hcs : withoutMark cs ≠ []) (ds : List Char) :
    withoutMark (cs ++ ds) = withoutMark cs ++ ds := by
  cases cs with
  | nil => exact absurd rfl hcs
  | cons c cs =>
      by_cases hmark : c = '\ufeff'
      · rw [hmark]
        rfl
      · have hself : ∀ cs, withoutMark (c :: cs) = c :: cs :=
          fun cs => withoutMark_eq_self (by simpa using hmark)
        rw [List.cons_append, hself, hself, List.cons_append]

end Text

namespace Sheet

/-- Lines that reading does not tell apart. -/
def Alike (delimiter : Char) (line other : List Char) : Prop :=
  Text.allBlank line = Text.allBlank other ∧ Line.split delimiter line = Line.split delimiter other

section
variable {delimiter : Char}

theorem Alike.refl (line : List Char) : Alike delimiter line line :=
  ⟨rfl, rfl⟩

theorem alike_concat_return (hdelimiter : delimiter ≠ '\r') (line : List Char) :
    Alike delimiter (line ++ ['\r']) line := by
  refine ⟨?_, Line.split_concat (by decide) hdelimiter.symm line⟩
  rw [Text.allBlank_append]
  exact Bool.and_true _

theorem alike_withoutReturn (hdelimiter : delimiter ≠ '\r') (line : List Char) :
    Alike delimiter line (Text.withoutReturn line) := by
  rcases Text.eq_withoutReturn line with h | h
  · rw [← h]
    exact .refl line
  · rw [h, Text.withoutReturn_concat]
    exact alike_concat_return hdelimiter _

theorem cells_of_alike {line other : List Char} (h : Alike delimiter line other) (number : Nat) :
    cells delimiter number line = cells delimiter number other := by
  rw [cells, cells, h.2]

theorem rows_of_alike {lines others : List (List Char)} (header : List (List Char))
    (number : Nat) (h : List.Forall₂ (Alike delimiter) lines others) :
    rows delimiter header number lines = rows delimiter header number others := by
  induction h generalizing number with
  | nil => rfl
  | cons hline _ ih => rw [rows, rows, hline.1, cells_of_alike hline, ih]

theorem decodeLines_of_alike {lines others : List (List Char)}
    (h : List.Forall₂ (Alike delimiter) lines others) :
    decodeLines delimiter lines = decodeLines delimiter others := by
  cases h with
  | nil => rfl
  | cons hfirst hdata =>
      simp only [decodeLines, cells_of_alike hfirst, rows_of_alike _ 2 hdata]

theorem rows_concat_blank (header : List (List Char)) (number : Nat)
    (lines : List (List Char)) {line : List Char} (hline : Text.allBlank line = true) :
    rows delimiter header number (lines ++ [line]) = rows delimiter header number lines := by
  induction lines generalizing number with
  | nil => simp only [List.nil_append, rows, if_pos hline]
  | cons first lines ih => rw [List.cons_append, rows, rows, ih]

theorem decodeLines_concat_blank {lines : List (List Char)} (hlines : lines ≠ [])
    {line : List Char} (hline : Text.allBlank line = true) :
    decodeLines delimiter (lines ++ [line]) = decodeLines delimiter lines := by
  cases lines with
  | nil => exact absurd rfl hlines
  | cons first data =>
      simp only [List.cons_append, decodeLines, rows_concat_blank _ 2 data hline]

variable (hdelimiter : delimiter ≠ '\r')
include hdelimiter

theorem decodeLines_withReturns (cs : List Char) :
    decodeLines delimiter (Text.lines (Text.withReturns cs)) =
      decodeLines delimiter (Text.lines cs) := by
  obtain ⟨ended, last, hpieces⟩ := Text.exists_pieces cs
  rw [Text.lines_of_pieces hpieces, Text.lines_of_pieces hpieces.withReturns]
  apply decodeLines_of_alike
  apply List.rel_append
  · -- A piece with a return behind it is a line; without the return, it may still end with one.
    rw [List.map_map, List.forall₂_map_left_iff, List.forall₂_map_right_iff, List.forall₂_same]
    intro piece _
    rw [Function.comp, Text.withoutReturn_concat]
    exact alike_withoutReturn hdelimiter piece
  · exact List.forall₂_same.2 fun line _ => .refl line

theorem decodeLines_concat_feed {cs : List Char} (hcs : cs ≠ []) :
    decodeLines delimiter (Text.lines (cs ++ ['\n'])) = decodeLines delimiter (Text.lines cs) := by
  obtain ⟨ended, last, hpieces⟩ := Text.exists_pieces cs
  rw [Text.lines_of_pieces hpieces, Text.lines_of_pieces hpieces.concat, if_pos rfl,
    List.append_nil, List.map_append, List.map_singleton]
  by_cases hlast : last = []
  · -- The text ended with a line feed, so that the new one ends a blank line.
    have hended : ended.map Text.withoutReturn ≠ [] := by
      rintro hnil
      rw [List.map_eq_nil_iff] at hnil
      exact hcs (by rw [hpieces.text_eq, hnil, hlast]; rfl)
    rw [hlast, if_pos rfl, List.append_nil]
    exact decodeLines_concat_blank hended rfl
  · -- The line feed ends the last line, which may lose a return at its end.
    rw [if_neg hlast]
    apply Eq.symm
    apply decodeLines_of_alike
    apply List.rel_append
    · exact List.forall₂_same.2 fun line _ => .refl line
    · exact .cons (alike_withoutReturn hdelimiter last) .nil

/-- A table reads the same when each of its line feeds gets a carriage return in front, when it gets
a byte order mark and has none, and when it gets a line feed at its end and is not empty. -/
theorem decode_ignores_endings (text : String) :
    decode delimiter (String.ofList (Text.withReturns text.toList)) = decode delimiter text ∧
      (text.toList.head? ≠ some '\ufeff' →
        decode delimiter ("\ufeff" ++ text) = decode delimiter text) ∧
      (Text.withoutMark text.toList ≠ [] →
        decode delimiter (text ++ "\n") = decode delimiter text) := by
  refine ⟨?_, ?_, ?_⟩
  · rw [decode, decode, String.toList_ofList, Text.withoutMark_withReturns]
    exact decodeLines_withReturns hdelimiter _
  · intro hmark
    rw [decode, decode, String.toList_append, Text.withoutMark_eq_self hmark]
    rfl
  · intro hne
    rw [decode, decode, String.toList_append, Text.withoutMark_append hne]
    exact decodeLines_concat_feed hdelimiter hne

end

/-- Carriage returns in front of line feeds, in quotes, on a blank line and at the end of the text. -/
def strayReturns : String :=
  "email,role\r\r\n\"a@b\", \"x\r\"\r\n \r\r\nc@d,\"y\" z\r"

theorem decode_ignores_endings_of_stray_returns :
    let rows := [⟨2, ["a@b", "x\r", "", ""]⟩, ⟨4, ["c@d", "y z", "", ""]⟩]
    ',' ≠ '\r' ∧ strayReturns.toList.head? ≠ some '\ufeff' ∧
      Text.withoutMark strayReturns.toList ≠ [] ∧
      decode ',' (String.ofList (Text.withReturns strayReturns.toList)) = .ok rows ∧
      decode ',' ("\ufeff" ++ strayReturns) = .ok rows ∧
      decode ',' (strayReturns ++ "\n") = .ok rows := by
  have hdelimiter : ',' ≠ '\r' := by decide
  have hmark : strayReturns.toList.head? ≠ some '\ufeff' := by decide +kernel
  have hne : Text.withoutMark strayReturns.toList ≠ [] := by decide +kernel
  have hrows : decode ',' strayReturns =
      .ok [⟨2, ["a@b", "x\r", "", ""]⟩, ⟨4, ["c@d", "y z", "", ""]⟩] := by decide +kernel
  obtain ⟨hreturns, hmarked, hended⟩ := decode_ignores_endings hdelimiter strayReturns
  exact ⟨hdelimiter, hmark, hne, hreturns.trans hrows, (hmarked hmark).trans hrows,
    (hended hne).trans hrows⟩

end Sheet
end Enrolment

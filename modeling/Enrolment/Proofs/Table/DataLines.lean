import Enrolment.Proofs.Text.Lines
import Enrolment.Table.Sheet

/-!
What a table says, line by line: the lines below its header that are not blank, each with its number
in the text, and what such a line has in each column. Reading a table gives one row for each of
these lines, in order, and nothing else. What a line is, is said here without the reader.
-/

namespace Enrolment
namespace Sheet

/-- The text of a table without the byte order mark that it may begin with. -/
def unmarked (text : String) : List Char :=
  if text.toList.head? = some '\ufeff' then text.toList.tail else text.toList

/-- The lines of a table, its header line first: what stands in front of each line feed, without one
carriage return at its end, and what stands behind the last line feed, unless that is empty. -/
def linesOf (text : String) : List (List Char) :=
  let pieces := (unmarked text).splitOn '\n'
  pieces.dropLast.map Text.withoutReturn ++ (pieces.getLast?.filter (· ≠ [])).toList

/-- The cells of the header line. -/
def header? (delimiter : Char) (text : String) : Option (List (List Char)) :=
  (linesOf text).head?.bind (Line.split delimiter)

/-- The lines below the header that are not blank, with their numbers; the header has number 1. -/
def dataLines (text : String) : List (List Char × Nat) :=
  ((linesOf text).tail.zipIdx 2).filter fun line => !Text.allBlank line.1

theorem linesOf_of_pieces {text : String} {last : List Char} {ended : List (List Char)}
    (h : Text.Pieces (unmarked text) ended last) :
    linesOf text = ended.map Text.withoutReturn ++ if last = [] then [] else [last] := by
  rw [linesOf, h.splitOn_eq]
  by_cases hlast : last = [] <;> simp [hlast]

theorem unmarked_of_mark {text : String} {mark body : List Char}
    (htext : text.toList = mark ++ body)
    (hmark : mark = ['\ufeff'] ∨ mark = [] ∧ body.head? ≠ some '\ufeff') :
    unmarked text = body := by
  rw [unmarked, htext]
  rcases hmark with rfl | ⟨rfl, hbody⟩
  · rfl
  · exact if_neg hbody

theorem unmarked_eq (text : String) : unmarked text = Text.withoutMark text.toList := by
  rw [unmarked]
  split
  · next hmark =>
      obtain ⟨body, hbody⟩ := List.head?_eq_some_iff.1 hmark
      rw [hbody]
      rfl
  · next hmark => rw [Text.withoutMark_eq_self hmark]

/-- The reader of tables goes by these lines. -/
theorem linesOf_eq (text : String) : linesOf text = Text.lines (Text.withoutMark text.toList) := by
  obtain ⟨ended, last, hpieces⟩ := Text.exists_pieces (unmarked text)
  rw [linesOf_of_pieces hpieces, ← unmarked_eq, Text.lines_of_pieces hpieces]

/-- What a line has in a column: its cell below the first header name that stands for the column,
or nothing if the line is too short or no name stands for it. -/
def cellBelow (delimiter : Char) (header : List (List Char)) (line : List Char)
    (column : Column) : String :=
  match position header column, Line.split delimiter line with
  | some i, some cells => String.ofList (cells.getD i [])
  | _, _ => ""

def rowOf (delimiter : Char) (header : List (List Char)) (line : List Char × Nat) : Row :=
  ⟨line.2, Column.all.map (cellBelow delimiter header line.1)⟩

theorem field_rowOf (delimiter : Char) (header : List (List Char)) (line : List Char × Nat)
    (column : Column) :
    (rowOf delimiter header line).field column = cellBelow delimiter header line.1 column := by
  cases column <;> rfl

section
variable {delimiter : Char} {header : List (List Char)} {rows : List Row}

theorem cells_eq_ok_iff {number : Nat} {line : List Char} {row : List (List Char)} :
    cells delimiter number line = .ok row ↔ Line.split delimiter line = some row := by
  rw [cells]
  cases Line.split delimiter line <;> simp

theorem arrange_eq_map_cellBelow {line : List Char} {row : List (List Char)}
    (h : Line.split delimiter line = some row) :
    arrange header row = Column.all.map (cellBelow delimiter header line) := by
  apply List.map_congr_left
  intro column _
  rw [cellBelow, h]
  cases position header column <;> rfl

theorem rows_cons_eq_ok_iff {number : Nat} {line : List Char} {lines : List (List Char)}
    (hline : Text.allBlank line = false) :
    Sheet.rows delimiter header number (line :: lines) = .ok rows ↔
      ∃ row rest, Line.split delimiter line = some row ∧
        Sheet.rows delimiter header (number + 1) lines = .ok rest ∧
        rows = ⟨number, arrange header row⟩ :: rest := by
  rw [Sheet.rows, if_neg (by simp [hline])]
  cases hrow : cells delimiter number line with
  | error error =>
      have hnone : ∀ row, Line.split delimiter line ≠ some row := by
        intro row hsplit
        rw [cells_eq_ok_iff.2 hsplit] at hrow
        cases hrow
      simp [bind, Except.bind, hnone]
  | ok row =>
      rw [cells_eq_ok_iff.1 hrow]
      cases Sheet.rows delimiter header (number + 1) lines with
      | error error => simp [bind, Except.bind]
      | ok rest => simp [bind, Except.bind, pure, Except.pure, eq_comm]

/-- All the lines that are not blank can be split, and each of them is a row. -/
theorem rows_eq_map_rowOf {number : Nat} {lines : List (List Char)}
    (h : Sheet.rows delimiter header number lines = .ok rows) :
    (∀ line ∈ lines, Text.allBlank line = false → (Line.split delimiter line).isSome = true) ∧
      rows = ((lines.zipIdx number).filter fun line => !Text.allBlank line.1).map
        (rowOf delimiter header) := by
  induction lines generalizing number rows with
  | nil =>
      obtain rfl : [] = rows := Except.ok.inj h
      exact ⟨by simp, rfl⟩
  | cons line lines ih =>
      cases hline : Text.allBlank line with
      | true =>
          rw [Sheet.rows, if_pos hline] at h
          obtain ⟨hsplit, hrows⟩ := ih h
          refine ⟨?_, ?_⟩
          · simpa [hline] using hsplit
          · rw [hrows, List.zipIdx_cons, List.filter_cons_of_neg (by simp [hline])]
      | false =>
          obtain ⟨row, rest, hrow, hrest, rfl⟩ := (rows_cons_eq_ok_iff hline).1 h
          obtain ⟨hsplit, hrows⟩ := ih hrest
          refine ⟨?_, ?_⟩
          · simpa [hrow] using hsplit
          · rw [List.zipIdx_cons, List.filter_cons_of_pos (by simp [hline]), List.map_cons,
              ← hrows, arrange_eq_map_cellBelow hrow]
            rfl

/-- A table that can be read has a header, and its rows are its data lines. -/
theorem decode_eq_map_rowOf {text : String} (h : decode delimiter text = .ok rows) :
    ∃ header, header? delimiter text = some header ∧
      (∀ line ∈ dataLines text, (Line.split delimiter line.1).isSome = true) ∧
      rows = (dataLines text).map (rowOf delimiter header) := by
  rw [decode, ← linesOf_eq] at h
  rw [header?, dataLines]
  cases hlines : linesOf text with
  | nil =>
      rw [hlines] at h
      cases h
  | cons first data =>
      rw [hlines, decodeLines] at h
      cases hheader : cells delimiter 1 first with
      | error error =>
          rw [hheader] at h
          cases h
      | ok header =>
          rw [hheader] at h
          simp only [bind, Except.bind] at h
          split at h
          · obtain ⟨hsplit, hrows⟩ := rows_eq_map_rowOf h
            refine ⟨header, cells_eq_ok_iff.1 hheader, ?_, hrows⟩
            intro line hline
            obtain ⟨hmem, hblank⟩ := List.mem_filter.1 hline
            exact hsplit line.1 (List.fst_mem_of_mem_zipIdx hmem) (by simpa using hblank)
          · cases h

end

theorem pairwise_lt_dataLines (text : String) :
    (dataLines text).Pairwise fun earlier later => earlier.2 < later.2 := by
  apply List.Pairwise.filter
  rw [← List.pairwise_map, List.zipIdx_map_snd]
  exact List.pairwise_lt_range'

end Sheet
end Enrolment

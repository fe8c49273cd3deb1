import Mathlib.Data.Fin.Tuple.Basic
import Mathlib.Data.List.Forall2
import Mathlib.Data.Set.Operations
import Mathlib.Order.Fin.Basic
import Enrolment.Proofs.Table.Reading
import Enrolment.Proofs.Table.RoundTrip

/-!
How the columns of a table are laid out does not matter. A written table reads back row by row,
each column from below the first header name that stands for it; so columns may stand in any order,
with others among them whose names stand for nothing or come too late, and rows may be cut short or
run on.

One table falls out. If the delimiter is itself the byte order mark and the first name is empty,
then the text begins with a mark. It is dropped, and with it the first column of the header alone.
-/

namespace Enrolment
namespace Sheet

/-- A header whose names are written as one line, and which names the required columns. -/
structure Heading (header : List String) : Prop where
  feed_notMem : ∀ name ∈ header, '\n' ∉ name.toList
  unmarked : ∀ first ∈ header.head?, first.toList.head? ≠ some '\ufeff'
  identifier : ∃ name ∈ header, Column.identifier.isNamed name.toList = true
  role : ∃ name ∈ header, Column.role.isNamed name.toList = true

/-- A row that is written as one line, and that is not to be taken for a blank one. -/
structure Legible (delimiter : Char) (row : List String) : Prop where
  feed_notMem : ∀ cell ∈ row, '\n' ∉ cell.toList
  visible : Text.isBlank delimiter = true → ∃ cell ∈ row, cell ≠ ""

/-- What a row has in a column: its cell below the first name that stands for the column. -/
def cellUnder {width : Nat} (header row : Vector String width) (column : Column) : String :=
  match Fin.find? fun i : Fin width => column.isNamed header[i].toList with
  | some i => row[i]
  | none => ""

/-- The columns at the given places, in the order in which they are given. -/
def select {width more : Nat} (place : Fin width → Fin more) (row : Vector String more) :
    Vector String width :=
  .ofFn fun i => row[place i]

/-- A column that is not looked at: its name stands for nothing, or for what a name to its left
stands for. -/
def Idle {width : Nat} (header : Vector String width) (i : Fin width) : Prop :=
  (∀ column : Column, column.isNamed header[i].toList = false) ∨
    ∃ j < i, ∃ column : Column, column.isNamed header[j].toList = true ∧
      column.isNamed header[i].toList = true

/-- Rows of other lengths: empty cells at the end of a row are left out, unless the row begins with
an empty cell, or further cells are added. -/
inductive Resized : List String → List String → Prop
  | shortened (first : String) (cells : List String) (count : Nat) (h : first ≠ "") :
      Resized (first :: cells ++ List.replicate count "") (first :: cells)
  | lengthened (row extra : List String) (h : ∀ cell ∈ extra, '\n' ∉ cell.toList) :
      Resized row (row ++ extra)

/-- Other layouts of a table, as a header with rows. -/
inductive Relaid {width : Nat} (header : Vector String width)
    (table : List (Vector String width)) : List String → List (List String) → Prop
  /-- No column is named twice, and the columns stand in another order. -/
  | permuted (order : Equiv.Perm (Fin width))
      (once : ∀ (i j : Fin width) (column : Column),
        column.isNamed header[i].toList = true → column.isNamed header[j].toList = true → i = j) :
      Relaid header table (select order header).toList
        (table.map fun row => (select order row).toList)
  /-- The table is part of a wider one, whose other columns are idle. -/
  | widened {more : Nat} (place : Fin width → Fin more) (wider : Vector String more)
      (rows : List (Vector String more)) (inOrder : StrictMono place)
      (header_eq : select place wider = header) (table_eq : rows.map (select place) = table)
      (idle : ∀ i, i ∉ Set.range place → Idle wider i)
      (feed_notMem : ∀ row ∈ rows, ∀ cell ∈ row.toList, '\n' ∉ cell.toList) :
      Relaid header table wider.toList (rows.map Vector.toList)
  | resized (rows : List (List String))
      (h : List.Forall₂ Resized (table.map Vector.toList) rows) :
      Relaid header table header.toList rows

section
variable {width more : Nat} {column : Column}

theorem getElem_select (place : Fin width → Fin more) (row : Vector String more)
    (i : Fin width) : (select place row)[i] = row[place i] := by
  simp [select]

theorem cellUnder_of_first {header : Vector String width} {i : Fin width}
    (h : column.isNamed header[i].toList = true)
    (hfirst : ∀ j < i, column.isNamed header[j].toList = false) (row : Vector String width) :
    cellUnder header row column = row[i] := by
  have hfind : (Fin.find? fun i : Fin width => column.isNamed header[i].toList) = some i :=
    Fin.find?_eq_some_iff.2 ⟨h, hfirst⟩
  rw [cellUnder, hfind]

theorem cellUnder_of_none {header : Vector String width}
    (h : ∀ i : Fin width, column.isNamed header[i].toList = false) (row : Vector String width) :
    cellUnder header row column = "" := by
  have hfind : (Fin.find? fun i : Fin width => column.isNamed header[i].toList) = none :=
    Fin.find?_eq_none_iff.2 h
  rw [cellUnder, hfind]

theorem first_or_none (header : Vector String width) (column : Column) :
    (∃ i : Fin width, column.isNamed header[i].toList = true ∧
      ∀ j < i, column.isNamed header[j].toList = false) ∨
      ∀ i : Fin width, column.isNamed header[i].toList = false := by
  cases hfind : Fin.find? fun i : Fin width => column.isNamed header[i].toList with
  | none => exact .inr (Fin.find?_eq_none_iff.1 hfind)
  | some i => exact .inl ⟨i, Fin.find?_eq_some_iff.1 hfind⟩

/-- Where each column is named once, it does not matter which name comes first. -/
theorem cellUnder_permuted {header : Vector String width}
    (honce : ∀ i j : Fin width, column.isNamed header[i].toList = true →
      column.isNamed header[j].toList = true → i = j)
    (order : Equiv.Perm (Fin width)) (row : Vector String width) :
    cellUnder (select order header) (select order row) column = cellUnder header row column := by
  rcases first_or_none header column with ⟨i, hi, hfirst⟩ | hnone
  · have hplace : ∀ row : Vector String width, (select order row)[order.symm i] = row[i] := by
      simp [select]
    rw [cellUnder_of_first hi hfirst, cellUnder_of_first (i := order.symm i), hplace]
    · rwa [hplace]
    · intro j hj
      rw [getElem_select, Bool.eq_false_iff]
      intro hnamed
      rw [← honce _ _ hnamed hi, Equiv.symm_apply_apply] at hj
      exact lt_irrefl j hj
  · rw [cellUnder_of_none hnone, cellUnder_of_none]
    intro i
    rw [getElem_select]
    exact hnone _

/-- The first name for a column is not that of an idle one. -/
theorem cellUnder_widened {place : Fin width → Fin more} {wider : Vector String more}
    (hplace : StrictMono place) (hidle : ∀ i, i ∉ Set.range place → Idle wider i)
    (row : Vector String more) :
    cellUnder (select place wider) (select place row) column = cellUnder wider row column := by
  rcases first_or_none wider column with ⟨i, hi, hfirst⟩ | hnone
  · have hrange : i ∈ Set.range place := by
      by_contra hout
      rcases hidle i hout with hunknown | ⟨j, hj, other, hother, hagain⟩
      · rw [hunknown column] at hi
        cases hi
      · rw [Column.eq_of_isNamed hagain hi, hfirst j hj] at hother
        cases hother
    obtain ⟨k, rfl⟩ := hrange
    rw [cellUnder_of_first hi hfirst, cellUnder_of_first (i := k), getElem_select]
    · rwa [getElem_select]
    · intro j hj
      rw [getElem_select]
      exact hfirst _ (hplace hj)
  · rw [cellUnder_of_none hnone, cellUnder_of_none]
    intro i
    rw [getElem_select]
    exact hnone _

theorem position_eq (header : Vector String width) (column : Column) :
    position (header.toList.map String.toList) column =
      (Fin.find? fun i : Fin width => column.isNamed header[i].toList).map Fin.val := by
  cases hfind : Fin.find? fun i : Fin width => column.isNamed header[i].toList with
  | none =>
      rw [Fin.find?_eq_none_iff] at hfind
      rw [position, Option.map_none, List.findIdx?_eq_none_iff]
      intro text htext
      obtain ⟨name, hname, rfl⟩ := List.mem_map.1 htext
      obtain ⟨i, hi, rfl⟩ := List.mem_iff_getElem.1 hname
      rw [decide_eq_false_iff_not, Column.ofHeader?_eq_some_iff]
      simpa using hfind ⟨i, by simpa using hi⟩
  | some i =>
      obtain ⟨hi, hfirst⟩ := Fin.find?_eq_some_iff.1 hfind
      rw [position, Option.map_some, List.findIdx?_eq_some_iff_getElem]
      refine ⟨by simp, ?_, ?_⟩
      · simpa [Column.ofHeader?_eq_some_iff] using hi
      · intro j hj
        have hnot := hfirst ⟨j, hj.trans i.isLt⟩ hj
        simpa [Column.ofHeader?_eq_some_iff] using hnot

theorem arrange_eq_map_cellUnder (header row : Vector String width) :
    arrange (header.toList.map String.toList) (row.toList.map String.toList) =
      Column.all.map (cellUnder header row) := by
  apply List.map_congr_left
  intro column _
  rw [position_eq, cellUnder]
  cases Fin.find? fun i : Fin width => column.isNamed header[i].toList with
  | none => rfl
  | some i => simp [List.getD_eq_getElem?_getD]

theorem arrange_permuted {header : Vector String width}
    (honce : ∀ (i j : Fin width) (column : Column), column.isNamed header[i].toList = true →
      column.isNamed header[j].toList = true → i = j)
    (order : Equiv.Perm (Fin width)) (row : Vector String width) :
    arrange ((select order header).toList.map String.toList)
        ((select order row).toList.map String.toList) =
      arrange (header.toList.map String.toList) (row.toList.map String.toList) := by
  rw [arrange_eq_map_cellUnder, arrange_eq_map_cellUnder]
  apply List.map_congr_left
  intro column _
  exact cellUnder_permuted (fun i j => honce i j column) order row

theorem arrange_widened {place : Fin width → Fin more} {wider : Vector String more}
    (hplace : StrictMono place) (hidle : ∀ i, i ∉ Set.range place → Idle wider i)
    (row : Vector String more) :
    arrange ((select place wider).toList.map String.toList)
        ((select place row).toList.map String.toList) =
      arrange (wider.toList.map String.toList) (row.toList.map String.toList) := by
  rw [arrange_eq_map_cellUnder, arrange_eq_map_cellUnder]
  apply List.map_congr_left
  intro column _
  exact cellUnder_widened hplace hidle row

end

/-- A row whose written form is one line, from which it is read. -/
structure Shown (delimiter : Char) (row : List String) : Prop where
  ne_nil : row ≠ []
  feed_notMem : ∀ cell ∈ row, '\n' ∉ cell.toList
  not_blank : Text.allBlank (Line.write delimiter (row.map String.toList)) = false

section
variable {delimiter : Char} {header row : List String}

/-- The names for the two required columns are two names. -/
theorem Heading.two_le_length (h : Heading header) : 2 ≤ header.length := by
  obtain ⟨name, hname, hidentifier⟩ := h.identifier
  obtain ⟨other, hother, hrole⟩ := h.role
  match header with
  | [] => cases hname
  | [only] =>
      rw [List.mem_singleton.1 hname] at hidentifier
      rw [List.mem_singleton.1 hother] at hrole
      cases Column.eq_of_isNamed hidentifier hrole
  | first :: second :: others => simp

theorem Heading.lacking_eq_nil (h : Heading header) :
    lacking (header.map String.toList) = [] := by
  simpa [lacking] using ⟨h.identifier, h.role⟩

/-- Unless it begins with the delimiter, the text of a table begins as its first name does, or with
a quote. -/
theorem Heading.unmarked_write (h : Heading header)
    (hmark : delimiter = '\ufeff' → header.head? ≠ some "") (rows : List (List String)) :
    (write delimiter (header :: rows)).toList.head? ≠ some '\ufeff' := by
  have hlength := h.two_le_length
  match header with
  | [] | [_] => simp at hlength
  | first :: second :: others =>
      rw [toList_write_cons, List.map_cons, List.map_cons, Line.write_cons_cons, Line.writeCell]
      split
      · exact fun hquote => by cases hquote
      · cases hfirst : first.toList with
        | nil =>
            have hempty : first = "" := String.toList_eq_nil_iff.1 hfirst
            intro hdelimiter
            exact hmark (Option.some.inj hdelimiter) (by rw [hempty]; rfl)
        | cons c cs =>
            have hhead := h.unmarked first rfl
            rw [hfirst] at hhead
            exact hhead

theorem Legible.shown (h : Legible delimiter row) (hlength : 2 ≤ row.length) :
    Shown delimiter row := by
  match row with
  | [] | [_] => simp at hlength
  | first :: second :: cells =>
      refine ⟨List.cons_ne_nil _ _, h.feed_notMem, ?_⟩
      rw [List.map_cons, List.map_cons, Line.allBlank_write, Bool.and_eq_false_iff,
        Classical.or_iff_not_imp_left, Bool.not_eq_false]
      intro hblank
      obtain ⟨cell, hcell, hne⟩ := h.visible hblank
      rw [← List.map_cons, ← List.map_cons, List.all_eq_false]
      exact ⟨cell.toList, List.mem_map_of_mem hcell, by simpa using hne⟩

theorem shown_of_first {first : String} {cells : List String} (hfirst : first ≠ "")
    (hfeed : ∀ cell ∈ first :: cells, '\n' ∉ cell.toList) : Shown delimiter (first :: cells) := by
  cases cells with
  | nil =>
      refine ⟨List.cons_ne_nil _ _, hfeed, ?_⟩
      rw [List.map_singleton, Line.write_singleton, Line.allBlank_writeCell]
      simpa using hfirst
  | cons second cells =>
      have hlegible : Legible delimiter (first :: second :: cells) :=
        ⟨hfeed, fun _ => ⟨first, List.mem_cons_self, hfirst⟩⟩
      exact hlegible.shown (by simp)

variable (d : Usable delimiter)
include d

/-- The lines of a written table are the written forms of its rows. -/
theorem lines_write_table {table : List (List String)}
    (h : ∀ row ∈ table, ∀ cell ∈ row, '\n' ∉ cell.toList) :
    Text.lines (write delimiter table).toList =
      table.map fun row => Line.write delimiter (row.map String.toList) := by
  induction table with
  | nil => rfl
  | cons row table ih =>
      rw [List.forall_mem_cons] at h
      rw [toList_write_cons, lines_write d (by simpa using h.1), ih h.2, List.map_cons]

theorem split_writeLine (hrow : row ≠ []) :
    Line.split delimiter (Line.write delimiter (row.map String.toList)) =
      some (row.map String.toList) :=
  Line.split_write_of_ne_nil d.ne_quote (mt List.map_eq_nil_iff.1 hrow)

/-- A table of rows that are shown reads back as those rows, each arranged by the header. -/
theorem decode_write_shown (hheader : Heading header)
    (hmark : delimiter = '\ufeff' → header.head? ≠ some "") {rows : List (List String)}
    (hrows : ∀ row ∈ rows, Shown delimiter row) :
    decode delimiter (write delimiter (header :: rows)) =
      .ok ((rows.zipIdx 2).map fun row =>
        ⟨row.2, arrange (header.map String.toList) (row.1.map String.toList)⟩) := by
  have hlines : linesOf (write delimiter (header :: rows)) =
      (header :: rows).map fun row => Line.write delimiter (row.map String.toList) := by
    rw [linesOf_eq, Text.withoutMark_eq_self (hheader.unmarked_write hmark rows)]
    apply lines_write_table d
    rw [List.forall_mem_cons]
    exact ⟨hheader.feed_notMem, fun row hrow => (hrows row hrow).feed_notMem⟩
  have hfirst : (linesOf (write delimiter (header :: rows))).head? =
      some (Line.write delimiter (header.map String.toList)) := by
    rw [hlines]
    rfl
  have hne : header ≠ [] := by
    rintro rfl
    exact absurd hheader.two_le_length (by simp)
  have hdata : dataLines (write delimiter (header :: rows)) =
      (rows.map fun row => Line.write delimiter (row.map String.toList)).zipIdx 2 := by
    rw [dataLines, hlines, List.map_cons, List.tail_cons, List.filter_eq_self]
    intro line hline
    obtain ⟨row, hrow, hwrite⟩ := List.mem_map.1 (List.fst_mem_of_mem_zipIdx hline)
    rw [← hwrite, (hrows row hrow).not_blank]
    rfl
  rw [decode_of_header hfirst (split_writeLine d hne) hheader.lacking_eq_nil, hdata,
    readLines_of_all]
  · rw [List.zipIdx_map, List.map_map]
    congr 1
    apply List.map_congr_left
    intro row hrow
    have hshown := hrows row.1 (List.fst_mem_of_mem_zipIdx hrow)
    rw [arrange_eq_map_cellBelow (split_writeLine d hshown.ne_nil)]
    rfl
  · intro line hline
    obtain ⟨row, hrow, hwrite⟩ := List.mem_map.1 (List.fst_mem_of_mem_zipIdx hline)
    rw [← hwrite, split_writeLine d (hrows row hrow).ne_nil]
    exact Option.some_ne_none _

/-- Two tables read the same if their headers arrange their rows alike. -/
theorem decode_write_congr {other : List String} {rows others : List (List String)}
    (hheader : Heading header) (hother : Heading other)
    (hmark : delimiter = '\ufeff' → header.head? ≠ some "")
    (hmarkOther : delimiter = '\ufeff' → other.head? ≠ some "")
    (hrows : ∀ row ∈ rows, Shown delimiter row) (hothers : ∀ row ∈ others, Shown delimiter row)
    (h : List.Forall₂ (fun row otherRow =>
      arrange (header.map String.toList) (row.map String.toList) =
        arrange (other.map String.toList) (otherRow.map String.toList)) rows others) :
    decode delimiter (write delimiter (header :: rows)) =
      decode delimiter (write delimiter (other :: others)) := by
  rw [decode_write_shown d hheader hmark hrows, decode_write_shown d hother hmarkOther hothers]
  congr 1
  clear hrows hothers
  generalize 2 = number
  induction h generalizing number with
  | nil => rfl
  | cons hrow _ ih => simp only [List.zipIdx_cons, List.map_cons, hrow, ih]

end

section
variable {delimiter : Char} {width more : Nat}

theorem mem_toList_select_iff {place : Fin width → Fin more} {row : Vector String more}
    {cell : String} : cell ∈ (select place row).toList ↔ ∃ i, row[place i] = cell := by
  simp [select]

theorem mem_toList_iff {row : Vector String width} {cell : String} :
    cell ∈ row.toList ↔ ∃ i : Fin width, row[i] = cell := by
  rw [Vector.mem_toList_iff, Vector.mem_iff_getElem]
  constructor
  · rintro ⟨i, hi, rfl⟩
    exact ⟨⟨i, hi⟩, rfl⟩
  · rintro ⟨i, rfl⟩
    exact ⟨i, i.isLt, rfl⟩

theorem Legible.permuted {row : Vector String width} (h : Legible delimiter row.toList)
    (order : Equiv.Perm (Fin width)) : Legible delimiter (select order row).toList := by
  have hmem : ∀ cell, cell ∈ (select order row).toList ↔ cell ∈ row.toList := by
    intro cell
    rw [mem_toList_select_iff, mem_toList_iff]
    constructor
    · rintro ⟨i, hi⟩
      exact ⟨order i, hi⟩
    · rintro ⟨i, hi⟩
      exact ⟨order.symm i, by simpa using hi⟩
  refine ⟨fun cell hcell => h.feed_notMem cell ((hmem cell).1 hcell), fun hblank => ?_⟩
  obtain ⟨cell, hcell, hne⟩ := h.visible hblank
  exact ⟨cell, (hmem cell).2 hcell, hne⟩

theorem Legible.widened {place : Fin width → Fin more} {row : Vector String more}
    (h : Legible delimiter (select place row).toList)
    (hfeed : ∀ cell ∈ row.toList, '\n' ∉ cell.toList) : Legible delimiter row.toList := by
  refine ⟨hfeed, fun hblank => ?_⟩
  obtain ⟨cell, hcell, hne⟩ := h.visible hblank
  obtain ⟨i, rfl⟩ := mem_toList_select_iff.1 hcell
  exact ⟨_, mem_toList_iff.2 ⟨place i, rfl⟩, hne⟩

theorem Resized.shown {row other : List String} (h : Resized row other)
    (hrow : Legible delimiter row) (hlength : 2 ≤ row.length) : Shown delimiter other := by
  cases h with
  | shortened first cells count hfirst =>
      exact shown_of_first hfirst fun cell hcell =>
        hrow.feed_notMem cell (List.mem_append_left _ hcell)
  | lengthened row extra hextra =>
      have hlegible : Legible delimiter (row ++ extra) := by
        refine ⟨?_, fun hblank => ?_⟩
        · intro cell hcell
          rcases List.mem_append.1 hcell with hcell | hcell
          · exact hrow.feed_notMem cell hcell
          · exact hextra cell hcell
        · obtain ⟨cell, hcell, hne⟩ := hrow.visible hblank
          exact ⟨cell, List.mem_append_left _ hcell, hne⟩
      exact hlegible.shown (by rw [List.length_append]; omega)

/-- Only cells below a name are looked at. -/
theorem arrange_congr {header cells others : List (List Char)}
    (h : ∀ i < header.length, cells.getD i [] = others.getD i []) :
    arrange header cells = arrange header others := by
  apply List.map_congr_left
  intro column _
  cases hposition : position header column with
  | none => rfl
  | some i =>
      obtain ⟨hi, -⟩ := List.findIdx?_eq_some_iff_getElem.1 hposition
      simp only [h i hi]

theorem Resized.arrange_eq {row other : List String} (h : Resized row other)
    {header : List (List Char)} (hlength : header.length = row.length) :
    arrange header (row.map String.toList) = arrange header (other.map String.toList) := by
  apply arrange_congr
  intro i hi
  cases h with
  | shortened first cells count hfirst =>
      rw [List.map_append, List.map_replicate, List.getD_eq_getElem?_getD,
        List.getD_eq_getElem?_getD, List.getElem?_append]
      split
      · rfl
      · next hout =>
          rw [List.getElem?_replicate, List.getElem?_eq_none (Nat.le_of_not_lt hout)]
          split <;> rfl
  | lengthened row extra hextra =>
      rw [hlength, ← List.length_map String.toList] at hi
      rw [List.map_append, List.getD_eq_getElem?_getD, List.getD_eq_getElem?_getD,
        List.getElem?_append_left hi]

theorem shown_of_resized {rows others : List (List String)}
    (h : List.Forall₂ Resized rows others)
    (hrows : ∀ row ∈ rows, Legible delimiter row ∧ 2 ≤ row.length) :
    ∀ other ∈ others, Shown delimiter other := by
  induction h with
  | nil => exact fun _ hother => absurd hother List.not_mem_nil
  | cons hrow _ ih =>
      rw [List.forall_mem_cons] at hrows ⊢
      exact ⟨hrow.shown hrows.1.1 hrows.1.2, ih hrows.2⟩

/-- In any layout of a table each row is shown, and arranged as before. -/
theorem Relaid.shown_and_arranged {header : Vector String width}
    {table : List (Vector String width)} {names : List String} {rows : List (List String)}
    (h : Relaid header table names rows) (htable : ∀ row ∈ table, Legible delimiter row.toList)
    (hheader : Heading header.toList) (hnames : Heading names) :
    (∀ row ∈ rows, Shown delimiter row) ∧
      List.Forall₂ (fun row other =>
        arrange (header.toList.map String.toList) (row.map String.toList) =
          arrange (names.map String.toList) (other.map String.toList))
        (table.map Vector.toList) rows := by
  have hwidth : 2 ≤ width := by simpa using hheader.two_le_length
  cases h with
  | permuted order honce =>
      refine ⟨?_, ?_⟩
      · rw [List.forall_mem_map]
        intro row hrow
        exact ((htable row hrow).permuted order).shown (by simpa using hwidth)
      · rw [List.forall₂_map_left_iff, List.forall₂_map_right_iff, List.forall₂_same]
        intro row _
        exact (arrange_permuted honce order row).symm
  | widened place wider rows hplace hwider hrows hidle hfeed =>
      subst hwider hrows
      refine ⟨?_, ?_⟩
      · rw [List.forall_mem_map]
        intro row hrow
        have hnarrow := htable _ (List.mem_map_of_mem hrow)
        exact (hnarrow.widened (hfeed row hrow)).shown (by simpa using hnames.two_le_length)
      · rw [List.map_map, List.forall₂_map_left_iff, List.forall₂_map_right_iff,
          List.forall₂_same]
        intro row _
        exact arrange_widened hplace hidle row
  | resized rows hrows =>
      have hlegible : ∀ row ∈ table.map Vector.toList,
          Legible delimiter row ∧ row.length = width := by
        rw [List.forall_mem_map]
        exact fun row hrow => ⟨htable row hrow, row.length_toList⟩
      refine ⟨?_, ?_⟩
      · apply shown_of_resized hrows
        intro row hrow
        obtain ⟨hrow, hlength⟩ := hlegible row hrow
        exact ⟨hrow, hlength ▸ hwidth⟩
      · apply ((List.forall₂_and_left _ _).2 ⟨hlegible, hrows⟩).imp
        rintro row other ⟨⟨-, hlength⟩, hresized⟩
        exact hresized.arrange_eq (by simp [hlength])

end

/-- A written table reads back by its names. For each row of the table there is one row, in order,
with the line of the text that it stands on, and in each column it has the cell below the first name
that stands for the column. Any other layout of the table gives the same rows, if its header can be
read back in turn. -/
theorem decode_by_names {delimiter : Char} {width : Nat} {header : Vector String width}
    {table : List (Vector String width)}
    (hdelimiter : (InputSettings.mk delimiter).problem? = none) (hheader : Heading header.toList)
    (hmark : delimiter = '\ufeff' → header.toList.head? ≠ some "")
    (htable : ∀ row ∈ table, Legible delimiter row.toList) :
    decode delimiter (write delimiter (header.toList :: table.map Vector.toList)) =
        .ok ((table.zipIdx 2).map fun row => ⟨row.2, Column.all.map (cellUnder header row.1)⟩) ∧
      ∀ names rows, Relaid header table names rows → Heading names →
        (delimiter = '\ufeff' → names.head? ≠ some "") →
        decode delimiter (write delimiter (names :: rows)) =
          decode delimiter (write delimiter (header.toList :: table.map Vector.toList)) := by
  have d := usable_of_problem? hdelimiter
  have hshown : ∀ row ∈ table.map Vector.toList, Shown delimiter row := by
    rw [List.forall_mem_map]
    intro row hrow
    exact (htable row hrow).shown (by simpa using hheader.two_le_length)
  refine ⟨?_, ?_⟩
  · rw [decode_write_shown d hheader hmark hshown, List.zipIdx_map, List.map_map]
    congr 1
    apply List.map_congr_left
    intro row _
    rw [← arrange_eq_map_cellUnder]
    rfl
  · intro names rows hrelaid hnames hmarkNames
    obtain ⟨hrows, harranged⟩ := hrelaid.shown_and_arranged htable hheader hnames
    exact (decode_write_congr d hheader hnames hmark hmarkNames hshown hrows harranged).symm

/-- A blank delimiter, names with blanks around them, and a layout with an unknown name in between
and a second name for the address at the end. -/
theorem decode_by_names_of_blank :
    let rows := [⟨2, ["a@b", "viewer", "", ""]⟩, ⟨3, ["", "x y", "", ""]⟩]
    (InputSettings.mk ' ').problem? = none ∧ Heading [" Email", "ROLE\t"] ∧
      (∀ row ∈ [#v["a@b", "viewer"], #v["", "x y"]], Legible ' ' row.toList) ∧
      decode ' ' (write ' ' [[" Email", "ROLE\t"], ["a@b", "viewer"], ["", "x y"]]) = .ok rows ∧
      Heading [" Email", "note", "ROLE\t", "user_email"] ∧
      decode ' ' (write ' ' [[" Email", "note", "ROLE\t", "user_email"],
        ["a@b", "", "viewer", "c@d"], ["", "n", "x y", "e@f"]]) = .ok rows := by
  have hheading : Heading (#v[" Email", "ROLE\t"]).toList :=
    ⟨by decide +kernel, by decide +kernel, by decide +kernel, by decide +kernel⟩
  have hwider : Heading [" Email", "note", "ROLE\t", "user_email"] :=
    ⟨by decide +kernel, by decide +kernel, by decide +kernel, by decide +kernel⟩
  have htable : ∀ row ∈ [#v["a@b", "viewer"], #v["", "x y"]], Legible ' ' row.toList := by
    intro row hrow
    simp only [List.mem_cons, List.not_mem_nil, or_false] at hrow
    rcases hrow with rfl | rfl <;> exact ⟨by decide +kernel, by decide +kernel⟩
  obtain ⟨hrows, hrelaid⟩ := decode_by_names rfl hheading (by decide +kernel) htable
  have hread := hrows.trans (show _ =
    .ok [⟨2, ["a@b", "viewer", "", ""]⟩, ⟨3, ["", "x y", "", ""]⟩] by decide +kernel)
  refine ⟨rfl, hheading, htable, hread, hwider, ?_⟩
  -- The two columns stand at the first and the third place of the wider table.
  let place : Fin 2 → Fin 4 := fun i => ⟨2 * i, by omega⟩
  have hinOrder : StrictMono place := fun i j hij => Nat.mul_lt_mul_of_pos_left hij (by decide)
  have hidle : ∀ i, i ∉ Set.range place →
      Idle #v[" Email", "note", "ROLE\t", "user_email"] i := by
    intro i hout
    match i with
    | 0 => exact absurd ⟨0, rfl⟩ hout
    | 1 =>
        left
        intro column
        cases column <;> decide +kernel
    | 2 => exact absurd ⟨1, rfl⟩ hout
    | 3 => exact .inr ⟨0, by decide, .identifier, by decide +kernel, by decide +kernel⟩
  have hlayout := Relaid.widened place #v[" Email", "note", "ROLE\t", "user_email"]
    [#v["a@b", "", "viewer", "c@d"], #v["", "n", "x y", "e@f"]] hinOrder rfl rfl hidle
    (by decide +kernel)
  exact (hrelaid _ _ hlayout hwider (by decide +kernel)).trans hread

/-- If the delimiter is the byte order mark, an empty first name is lost with it, and every other
name moves to the left of its cells. -/
theorem not_decode_by_names_of_mark :
    (InputSettings.mk '\ufeff').problem? = none ∧ Heading ["", "identifier", "role"] ∧
      Legible '\ufeff' ["x", "a@b", "viewer"] ∧
      decode '\ufeff' (write '\ufeff' [["", "identifier", "role"], ["x", "a@b", "viewer"]]) ≠
        .ok [⟨2, Column.all.map
          (cellUnder #v["", "identifier", "role"] #v["x", "a@b", "viewer"])⟩] ∧
      decode '\ufeff' (write '\ufeff' [["", "identifier", "role"], ["x", "a@b", "viewer"]]) =
        .ok [⟨2, ["x", "a@b", "", ""]⟩] := by
  refine ⟨rfl, ⟨?_, ?_, ?_, ?_⟩, ⟨?_, ?_⟩, ?_, ?_⟩ <;> decide +kernel

end Sheet
end Enrolment

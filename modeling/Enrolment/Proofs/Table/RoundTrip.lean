import Enrolment.Proofs.Table.Quoting
import Enrolment.Proofs.Text.Lines
import Enrolment.Settings.Check
import Enrolment.Table.Sheet
import Enrolment.Table.Writing

/-!
A table that is written under the canonical header reads back. A written row takes one line of the
text unless one of its cells holds a line feed; the first such row is where reading stops. The only
rows that are lost are those that look like blank lines: all cells empty, and a blank delimiter.
-/

namespace Enrolment
namespace Sheet

/-- A row whose written form takes more than one line. -/
def breaksLine (row : List String) : Bool :=
  row.any fun cell => cell.toList.contains '\n'

/-- A row whose written form is a blank line. -/
def vanishes (delimiter : Char) (row : List String) : Bool :=
  Text.isBlank delimiter && row.all fun cell => cell.toList.isEmpty

theorem toList_write (delimiter : Char) (table : List (List String)) :
    (write delimiter table).toList =
      table.flatMap fun row => Line.write delimiter (row.map String.toList) ++ ['\n'] := by
  simp only [write, writeLine, String.toList_join, List.flatMap_map, String.toList_append,
    String.toList_ofList]
  rfl

theorem toList_write_cons (delimiter : Char) (row : List String) (table : List (List String)) :
    (write delimiter (row :: table)).toList =
      Line.write delimiter (row.map String.toList) ++ '\n' :: (write delimiter table).toList := by
  simp [toList_write]

theorem withoutReturn_doubleQuotes (text : List Char) :
    Text.withoutReturn (Line.doubleQuotes text) = Line.doubleQuotes (Text.withoutReturn text) := by
  induction text with
  | nil => rfl
  | cons c cs ih =>
      by_cases hc : c = '"'
      · have hreturn : '"' ≠ '\r' := by decide
        rw [hc, Line.doubleQuotes_quote, Text.withoutReturn_cons (.inl hreturn),
          Text.withoutReturn_cons (.inl hreturn), ih, Text.withoutReturn_cons (.inl hreturn)]
        rfl
      · cases cs with
        | nil =>
            by_cases hreturn : c = '\r'
            · subst hreturn
              rfl
            · rw [Text.withoutReturn_cons (.inl hreturn), Line.doubleQuotes_cons hc,
                Line.doubleQuotes_cons hc]
              exact Text.withoutReturn_cons (.inl hreturn)
        | cons d ds =>
            have hcons : Line.doubleQuotes (d :: ds) ≠ [] := by
              rw [Line.doubleQuotes]
              split <;> simp
            rw [Text.withoutReturn_cons (.inr (List.cons_ne_nil d ds)), Line.doubleQuotes_cons hc,
              Line.doubleQuotes_cons hc, Text.withoutReturn_cons (.inr hcons), ih]

/-- The delimiters that settings may name. -/
structure Usable (delimiter : Char) : Prop where
  ne_quote : delimiter ≠ '"'
  ne_feed : delimiter ≠ '\n'
  ne_return : delimiter ≠ '\r'

theorem usable_of_problem? {delimiter : Char}
    (h : (InputSettings.mk delimiter).problem? = none) : Usable delimiter := by
  simp only [InputSettings.problem?] at h
  split at h
  · cases h
  · next hquote =>
      split at h
      · cases h
      · next hbreak =>
          rw [not_or] at hbreak
          exact ⟨hquote, hbreak.1, hbreak.2⟩

section
variable {delimiter : Char} (d : Usable delimiter)
include d

/-- A written row without line feeds is one line of the text. -/
theorem lines_write {cells : List (List Char)} (hcells : ∀ cell ∈ cells, '\n' ∉ cell)
    (rest : List Char) : Text.lines (Line.write delimiter cells ++ '\n' :: rest) =
      Line.write delimiter cells :: Text.lines rest := by
  have hfeed : '\n' ∉ Line.write delimiter cells := by
    rw [Line.mem_write_iff (by decide) d.ne_feed.symm]
    rintro ⟨cell, hcell, hmem⟩
    exact hcells cell hcell hmem
  rw [Text.lines_append _ _ hfeed,
    Text.withoutReturn_eq_self (Line.getLast?_write_ne d.ne_return cells)]

/-- The first line of a row with a line feed breaks off inside quotes. -/
theorem exists_lines_write {cells : List (List Char)} (hcells : ∃ cell ∈ cells, '\n' ∈ cell)
    (rest : List Char) : ∃ line others,
      Text.lines (Line.write delimiter cells ++ '\n' :: rest) = line :: others ∧
        Text.allBlank line = false ∧ Line.split delimiter line = none := by
  obtain ⟨front, text, more, hwrite, hfront, htext⟩ :=
    Line.exists_cut delimiter hcells
  have hfeed : '\n' ∉ Line.writeFront delimiter front ++ '"' :: Line.doubleQuotes text := by
    rw [List.mem_append, List.mem_cons, Line.mem_doubleQuotes_iff, Line.writeFront,
      List.mem_flatMap]
    rintro (⟨cell, hcell, hmem⟩ | hquote | hmem)
    · rw [List.mem_append, Line.mem_writeCell_iff (by decide), List.mem_singleton] at hmem
      rcases hmem with hmem | hmem
      · exact hfront cell hcell hmem
      · exact d.ne_feed hmem.symm
    · cases hquote
    · exact htext hmem
  refine ⟨_, Text.lines (more ++ '\n' :: rest), ?_, ?_,
    Line.split_open d.ne_quote front (Text.withoutReturn text)⟩
  · rw [hwrite, List.append_assoc, List.cons_append, Text.lines_append _ _ hfeed,
      Text.withoutReturn_append_cons _ _ (by decide), withoutReturn_doubleQuotes]
  · rw [Text.allBlank_append]
    exact Bool.and_false _

end

theorem position_canonical (column : Column) :
    position (canonicalHeader.map String.toList) column = some column.position := by
  cases column <;> decide +kernel

theorem missing_canonical : missing (canonicalHeader.map String.toList) = [] := by
  simp [missing, position_canonical]

theorem exists_cells (row : Vector String 4) :
    ∃ first second third fourth, row.toList = [first, second, third, fourth] :=
  match row with
  | ⟨⟨[first, second, third, fourth]⟩, _⟩ => ⟨first, second, third, fourth, rfl⟩

theorem arrange_canonical (row : Vector String 4) :
    arrange (canonicalHeader.map String.toList) (row.toList.map String.toList) = row.toList := by
  obtain ⟨first, second, third, fourth, hrow⟩ := exists_cells row
  simp [hrow, arrange, position_canonical, Column.all, Column.position]

theorem breaksLine_iff (row : List String) :
    breaksLine row = true ↔ ∃ cell ∈ row.map String.toList, '\n' ∈ cell := by
  simp only [breaksLine, List.any_eq_true, List.contains_iff_mem, List.mem_map]
  constructor
  · rintro ⟨cell, hcell, hmem⟩
    exact ⟨cell.toList, ⟨cell, hcell, rfl⟩, hmem⟩
  · rintro ⟨_, ⟨cell, hcell, rfl⟩, hmem⟩
    exact ⟨cell, hcell, hmem⟩

theorem allBlank_row (delimiter : Char) (row : Vector String 4) :
    Text.allBlank (Line.write delimiter (row.toList.map String.toList)) =
      vanishes delimiter row.toList := by
  obtain ⟨first, second, third, fourth, hrow⟩ := exists_cells row
  rw [hrow]
  exact Line.allBlank_write delimiter _ _ _

theorem split_row {delimiter : Char} (d : Usable delimiter) (row : Vector String 4) :
    Line.split delimiter (Line.write delimiter (row.toList.map String.toList)) =
      some (row.toList.map String.toList) := by
  obtain ⟨first, second, third, fourth, hrow⟩ := exists_cells row
  rw [hrow]
  exact Line.split_write d.ne_quote _ _

/-- What written rows read back as if the first of them has the given number. -/
def readBack (delimiter : Char) (number : Nat) (table : List (Vector String 4)) :
    Except DecodeError (List Row) :=
  match table.findIdx? fun row => breaksLine row.toList with
  | some i => .error (.unterminatedQuote (i + number))
  | none =>
      .ok (((table.zipIdx number).filter fun entry => !vanishes delimiter entry.1.toList).map
        fun entry => ⟨entry.2, entry.1.toList⟩)

section
variable {delimiter : Char} {row : Vector String 4} (number : Nat)
  (table : List (Vector String 4))

theorem readBack_of_breaks (h : breaksLine row.toList = true) :
    readBack delimiter number (row :: table) = .error (.unterminatedQuote number) := by
  rw [readBack, List.findIdx?_cons, if_pos h]
  simp only [Nat.zero_add]

theorem readBack_of_vanishes (h : breaksLine row.toList = false)
    (hvanishes : vanishes delimiter row.toList = true) :
    readBack delimiter number (row :: table) = readBack delimiter (number + 1) table := by
  rw [readBack, readBack, List.findIdx?_cons, h]
  cases table.findIdx? fun row => breaksLine row.toList with
  | none => simp [hvanishes]
  | some i => simp; omega

theorem readBack_of_stays (h : breaksLine row.toList = false)
    (hvanishes : vanishes delimiter row.toList = false) :
    readBack delimiter number (row :: table) =
      (readBack delimiter (number + 1) table).map (⟨number, row.toList⟩ :: ·) := by
  rw [readBack, readBack, List.findIdx?_cons, h]
  cases table.findIdx? fun row => breaksLine row.toList with
  | none => simp [hvanishes, Except.map]
  | some i => simp [Except.map]; omega

end

theorem rows_write {delimiter : Char} (d : Usable delimiter) (number : Nat)
    (table : List (Vector String 4)) :
    rows delimiter (canonicalHeader.map String.toList) number
        (Text.lines (write delimiter (table.map Vector.toList)).toList) =
      readBack delimiter number table := by
  induction table generalizing number with
  | nil => rfl
  | cons row table ih =>
      rw [List.map_cons, toList_write_cons]
      cases hbreaks : breaksLine row.toList with
      | true =>
          -- The first line of the row is cut off inside quotes, and nothing behind it is read.
          obtain ⟨line, others, hlines, hblank, hsplit⟩ :=
            exists_lines_write d ((breaksLine_iff _).1 hbreaks)
              (write delimiter (table.map Vector.toList)).toList
          rw [hlines, rows, hblank, cells, hsplit, readBack_of_breaks number table hbreaks]
          rfl
      | false =>
          have hfeeds : ∀ cell ∈ row.toList.map String.toList, '\n' ∉ cell := by
            intro cell hcell hmem
            rw [(breaksLine_iff _).2 ⟨cell, hcell, hmem⟩] at hbreaks
            cases hbreaks
          rw [lines_write d hfeeds, rows, allBlank_row, ih, cells, split_row d]
          cases hvanishes : vanishes delimiter row.toList with
          | true => exact (readBack_of_vanishes number table hbreaks hvanishes).symm
          | false =>
              rw [readBack_of_stays number table hbreaks hvanishes, if_neg Bool.false_ne_true]
              simp only [bind, Except.bind, pure, Except.pure, arrange_canonical]
              cases readBack delimiter (number + 1) table <;> rfl

theorem withoutMark_write (delimiter : Char) (table : List (List String)) :
    Text.withoutMark (write delimiter (canonicalHeader :: table)).toList =
      (write delimiter (canonicalHeader :: table)).toList := by
  apply Text.withoutMark_eq_self
  rw [toList_write_cons]
  change (Line.write delimiter ("identifier".toList :: "role".toList :: _) ++ _).head? ≠ _
  rw [Line.write_cons_cons, Line.writeCell]
  split
  · exact fun h => by cases h
  · exact fun h => by cases h

/-- A written table reads back row by row, up to the first row that holds a line feed. -/
theorem decode_write (delimiter : Char)
    (hdelimiter : (InputSettings.mk delimiter).problem? = none)
    (table : List (Vector String 4)) :
    decode delimiter (write delimiter (canonicalHeader :: table.map Vector.toList)) =
      match table.findIdx? fun row => breaksLine row.toList with
      | some i => .error (.unterminatedQuote (i + 2))
      | none =>
          .ok (((table.zipIdx 2).filter fun entry => !vanishes delimiter entry.1.toList).map
            fun entry => ⟨entry.2, entry.1.toList⟩) := by
  have d := usable_of_problem? hdelimiter
  have hfeeds : ∀ cell ∈ canonicalHeader.map String.toList, '\n' ∉ cell := by decide +kernel
  have hheader : cells delimiter 1 (Line.write delimiter (canonicalHeader.map String.toList)) =
      .ok (canonicalHeader.map String.toList) := by
    have hsplit : Line.split delimiter
        (Line.write delimiter (canonicalHeader.map String.toList)) =
          some (canonicalHeader.map String.toList) :=
      Line.split_write d.ne_quote _ _
    rw [cells, hsplit]
  rw [decode, withoutMark_write, toList_write_cons, lines_write d hfeeds, decodeLines, hheader]
  simp only [bind, Except.bind, if_pos missing_canonical]
  exact rows_write d 2 table

theorem decode_write_tabs :
    (InputSettings.mk '\t').problem? = none ∧
      decode '\t' (write '\t' [canonicalHeader, ["a", " b", "\"\r", ""], ["", "", "", ""],
        ["c", "d\te", "", "\r"]]) =
          .ok [⟨2, ["a", " b", "\"\r", ""]⟩, ⟨4, ["c", "d\te", "", "\r"]⟩] ∧
      decode '\t' (write '\t' [canonicalHeader, ["", "", "", ""], ["a", "b", "c\nd", "e"]]) =
          .error (.unterminatedQuote 3) := by
  refine ⟨rfl, ?_, ?_⟩
  · exact (decode_write '\t' rfl [#v["a", " b", "\"\r", ""], #v["", "", "", ""],
      #v["c", "d\te", "", "\r"]]).trans rfl
  · exact (decode_write '\t' rfl [#v["", "", "", ""], #v["a", "b", "c\nd", "e"]]).trans rfl

end Sheet
end Enrolment

import Enrolment.Proofs.Table.DataLines
import Enrolment.Proofs.Table.Grammar
import Enrolment.Table.Writing

/-!
Lines joined at a delimiter. A line that can be read does not end in quoted text, so a delimiter put
behind it ends its last cell, and what follows is read as a line of its own: no cell in front of the
delimiter changes, and none behind it moves. Written cells are joined in this way, and whatever they
hold, they read back.
-/

namespace Enrolment
namespace Line

section
variable {delimiter : Char} {front : List Char} {cells : List (List Char)}

/-- Where a cell may end, the delimiter ends it. -/
theorem Place.endsAt_delimiter {place : Place} {cell : List Char} (h : place.close = some cell) :
    place.endsAt delimiter delimiter = true := by
  have hinside : place.isInside = false := by
    rw [Bool.eq_false_iff, ne_eq, ← Place.close_eq_none_iff, h]
    exact Option.some_ne_none cell
  simp [Place.endsAt, hinside]

theorem scanFrom_append_delimiter {place : Place}
    (hfront : scanFrom delimiter place front = some cells) (back : List Char) :
    scanFrom delimiter place (front ++ delimiter :: back) =
      (scan delimiter back).map (cells ++ ·) := by
  -- For every place, since each character changes it; only the end of the line meets the delimiter.
  induction front generalizing place cells with
  | nil =>
      rw [scanFrom] at hfront
      obtain ⟨cell, hclose, rfl⟩ := Option.map_eq_some_iff.1 hfront
      rw [List.nil_append, scanFrom_cons_of_ends (Place.endsAt_delimiter hclose), hclose,
        Option.bind_some]
      rfl
  | cons c front ih =>
      rw [List.cons_append]
      cases hends : place.endsAt delimiter c with
      | true =>
          rw [scanFrom_cons_of_ends hends] at hfront
          obtain ⟨cell, hclose, hrest⟩ := Option.bind_eq_some_iff.1 hfront
          obtain ⟨others, hothers, rfl⟩ := Option.map_eq_some_iff.1 hrest
          rw [scanFrom_cons_of_ends hends, hclose, Option.bind_some, scan, ih hothers,
            Option.map_map]
          rfl
      | false =>
          rw [scanFrom_cons_of_not_ends hends] at hfront
          rw [scanFrom_cons_of_not_ends hends, ih hfront]

/-- Behind a line that can be read, a delimiter begins a new line. -/
theorem split_append_delimiter (hdelimiter : delimiter ≠ '"')
    (hfront : split delimiter front = some cells) (back : List Char) :
    split delimiter (front ++ delimiter :: back) = (split delimiter back).map (cells ++ ·) := by
  rw [split_eq_scan hdelimiter] at hfront
  rw [split_eq_scan hdelimiter, split_eq_scan hdelimiter]
  exact scanFrom_append_delimiter hfront back

end

end Line

namespace Sheet

/-- A line that can be read and any other line, joined at a delimiter: the cells of the one and then
those of the other, or the failure of the other. -/
theorem cells_joined {delimiter : Char} (hdelimiter : delimiter ≠ '"') (number : Nat)
    {front : List Char} {left : List (List Char)}
    (hfront : cells delimiter number front = .ok left) (back : List Char) :
    (∀ right, cells delimiter number back = .ok right →
        cells delimiter number (front ++ delimiter :: back) = .ok (left ++ right)) ∧
      (∀ error, cells delimiter number (front ++ delimiter :: back) = .error error ↔
        cells delimiter number back = .error error) ∧
      ∀ whole, cells delimiter number (front ++ delimiter :: back) = .ok whole → left <+: whole := by
  have hsplit := Line.split_append_delimiter hdelimiter (cells_eq_ok_iff.1 hfront) back
  simp only [cells, hsplit]
  cases Line.split delimiter back with
  | none => simp
  | some right => simp

/-- A quoted cell with a delimiter in it, text behind its closing quote and blanks behind that, and a
cell of blanks; then a line that can be read, and one that ends in quoted text. -/
theorem cells_joined_of_tabs :
    '\t' ≠ '"' ∧
      cells '\t' 3 "\"a\t\"\"\"b \t ".toList = .ok ["a\t\"b".toList, []] ∧
      cells '\t' 3 ("\"a\t\"\"\"b \t ".toList ++ '\t' :: " \"\t\" \tc\"".toList) =
        .ok ["a\t\"b".toList, [], "\t".toList, "c\"".toList] ∧
      cells '\t' 3 ("\"a\t\"\"\"b \t ".toList ++ '\t' :: "c\t\"d".toList) =
        .error (.unterminatedQuote 3) := by
  have hdelimiter : '\t' ≠ '"' := by decide
  have hfront : cells '\t' 3 "\"a\t\"\"\"b \t ".toList = .ok ["a\t\"b".toList, []] := by cbv
  obtain ⟨hread, _, _⟩ := cells_joined hdelimiter 3 hfront " \"\t\" \tc\"".toList
  obtain ⟨_, hfails, _⟩ := cells_joined hdelimiter 3 hfront "c\t\"d".toList
  exact ⟨hdelimiter, hfront, hread _ (by cbv), (hfails _).2 (by cbv)⟩

/-- Quoted text that is still open takes the delimiter in. -/
example : Line.split ',' "\"a".toList = none ∧
    Line.split ',' "\"a,b\"".toList = some ["a,b".toList] := by decide +kernel

/-- Whatever the cells hold, and however many there are, their written form reads back. -/
theorem cells_writeLine {delimiter : Char} (hdelimiter : delimiter ≠ '"') (number : Nat)
    {row : List String} (hrow : row ≠ []) :
    cells delimiter number (writeLine delimiter row).toList = .ok (row.map String.toList) := by
  have hcells : row.map String.toList ≠ [] := mt List.map_eq_nil_iff.1 hrow
  rw [cells_eq_ok_iff, writeLine, String.toList_ofList]
  exact Line.split_write_of_ne_nil hdelimiter hcells

/-- Empty cells beside a blank delimiter, the delimiter, a quote, line endings, and a blank at the end
of a cell. -/
theorem cells_writeLine_of_blanks :
    '\u00a0' ≠ '"' ∧ ["", "\u00a0", "\"a\"", "\r\n", "b\u3000", ""] ≠ [] ∧
      writeLine '\u00a0' ["", "\u00a0", "\"a\"", "\r\n", "b\u3000", ""] =
        "\u00a0\"\u00a0\"\u00a0\"\"\"a\"\"\"\u00a0\"\r\n\"\u00a0\"b\u3000\"\u00a0" ∧
      cells '\u00a0' 1
          (writeLine '\u00a0' ["", "\u00a0", "\"a\"", "\r\n", "b\u3000", ""]).toList =
        .ok ["".toList, "\u00a0".toList, "\"a\"".toList, "\r\n".toList, "b\u3000".toList,
          "".toList] := by
  have hrow : ["", "\u00a0", "\"a\"", "\r\n", "b\u3000", ""] ≠ [] := by decide
  exact ⟨by decide, hrow, by decide +kernel, cells_writeLine (by decide) 1 hrow⟩

/-- A line without cells is written as the line of one empty cell. -/
example : cells ',' 1 (writeLine ',' []).toList = .ok [[]] := by cbv

end Sheet
end Enrolment

import Mathlib.Data.List.Basic
import Enrolment.Proofs.Table.DataLines
import Enrolment.Proofs.Table.Grammar

/-!
What a table is read as, from its lines. The header counts before anything else: if it cannot be
split, or if no name of it stands for a required column, then no line below it matters. After that
the first data line that cannot be split counts, and if there is none, each data line is a row.
-/

namespace Enrolment
namespace Column

/-- Whether a header name stands for the column: it is one of its aliases, in letters of either case
and with any blanks around it. -/
def isNamed (column : Column) (name : List Char) : Bool :=
  column.aliases.contains (String.ofList (Text.lowerAscii (Text.trim name)))

theorem mem_all (column : Column) : column ∈ all := by
  cases column <;> decide

/-- No two columns share an alias. -/
theorem eq_of_mem_aliases (column other : Column) :
    ∀ key ∈ column.aliases, key ∈ other.aliases → column = other := by
  cases column <;> cases other <;> decide

theorem eq_of_isNamed {column other : Column} {name : List Char}
    (h : column.isNamed name = true) (hother : other.isNamed name = true) : column = other :=
  eq_of_mem_aliases column other _ (List.contains_iff_mem.1 h) (List.contains_iff_mem.1 hother)

theorem ofHeader?_eq (name : List Char) :
    ofHeader? name = all.find? fun column => column.isNamed name :=
  rfl

theorem ofHeader?_eq_some_iff {name : List Char} {column : Column} :
    ofHeader? name = some column ↔ column.isNamed name = true := by
  rw [ofHeader?_eq]
  constructor
  · exact List.find?_some
  · intro h
    cases hfound : all.find? fun column => column.isNamed name with
    | none => exact absurd h (List.find?_eq_none.1 hfound column column.mem_all)
    | some other =>
        have hother := List.find?_some hfound
        rw [eq_of_isNamed h hother]

end Column

namespace Sheet

/-- The required columns that no name of a header stands for. -/
def lacking (header : List (List Char)) : List Column :=
  [Column.identifier, Column.role].filter fun column => !header.any column.isNamed

theorem missing_eq_lacking (header : List (List Char)) : missing header = lacking header := by
  apply List.filter_congr
  intro column _
  rw [Bool.eq_iff_iff, position, Option.isNone_iff_eq_none, List.findIdx?_eq_none_iff]
  simp [Column.ofHeader?_eq_some_iff]

/-- The rows of numbered lines, unless one of them cannot be split. Then the first such line is
reported. -/
def readLines (delimiter : Char) (header : List (List Char)) (lines : List (List Char × Nat)) :
    Except DecodeError (List Row) :=
  match lines.find? fun line => (Line.split delimiter line.1).isNone with
  | some line => .error (.unterminatedQuote line.2)
  | none => .ok (lines.map (rowOf delimiter header))

section
variable {delimiter : Char} {header : List (List Char)}

theorem readLines_cons_of_open {line : List Char × Nat} (h : Line.split delimiter line.1 = none)
    (lines : List (List Char × Nat)) :
    readLines delimiter header (line :: lines) = .error (.unterminatedQuote line.2) := by
  rw [readLines, List.find?_cons, h]
  rfl

theorem readLines_cons_of_split {line : List Char × Nat} {row : List (List Char)}
    (h : Line.split delimiter line.1 = some row) (lines : List (List Char × Nat)) :
    readLines delimiter header (line :: lines) =
      (readLines delimiter header lines).map (⟨line.2, arrange header row⟩ :: ·) := by
  rw [readLines, readLines, List.find?_cons, h, arrange_eq_map_cellBelow h]
  cases lines.find? fun line => (Line.split delimiter line.1).isNone <;> rfl

theorem rows_eq_readLines (number : Nat) (lines : List (List Char)) :
    rows delimiter header number lines = readLines delimiter header
      ((lines.zipIdx number).filter fun line => !Text.allBlank line.1) := by
  induction lines generalizing number with
  | nil => rfl
  | cons line lines ih =>
      rw [rows, List.zipIdx_cons]
      cases hblank : Text.allBlank line with
      | true => rw [if_pos rfl, ih, List.filter_cons_of_neg (by simp [hblank])]
      | false =>
          rw [if_neg Bool.false_ne_true, ih, List.filter_cons_of_pos (by simp [hblank]), cells]
          cases hrow : Line.split delimiter line with
          | none =>
              rw [readLines_cons_of_open hrow]
              rfl
          | some row =>
              rw [readLines_cons_of_split hrow]
              rfl

section
variable {text : String} {first : List Char} (hfirst : (linesOf text).head? = some first)
include hfirst

theorem linesOf_eq_cons : linesOf text = first :: (linesOf text).tail := by
  obtain ⟨data, hlines⟩ := List.head?_eq_some_iff.1 hfirst
  rw [hlines, List.tail_cons]

theorem decode_of_open (h : Line.split delimiter first = none) :
    decode delimiter text = .error (.unterminatedQuote 1) := by
  rw [decode, ← linesOf_eq, linesOf_eq_cons hfirst, decodeLines, cells, h]
  rfl

theorem decode_of_lacking (h : Line.split delimiter first = some header)
    (hlacking : lacking header ≠ []) :
    decode delimiter text = .error (.missingColumns (lacking header)) := by
  rw [decode, ← linesOf_eq, linesOf_eq_cons hfirst, decodeLines, cells, h]
  simp only [bind, Except.bind, missing_eq_lacking]
  exact if_neg hlacking

/-- Below a header with the required columns the data lines are all that counts. -/
theorem decode_of_header (h : Line.split delimiter first = some header)
    (hlacking : lacking header = []) :
    decode delimiter text = readLines delimiter header (dataLines text) := by
  have hdata : dataLines text =
      ((linesOf text).tail.zipIdx 2).filter fun line => !Text.allBlank line.1 := rfl
  rw [hdata, ← rows_eq_readLines, decode, ← linesOf_eq, linesOf_eq_cons hfirst, decodeLines,
    cells, h]
  simp only [bind, Except.bind, missing_eq_lacking, List.tail_cons]
  exact if_pos hlacking

end

theorem readLines_of_first {lines : List (List Char × Nat)}
    (hlines : lines.Pairwise fun earlier later => earlier.2 < later.2)
    {line : List Char × Nat} (hmem : line ∈ lines) (hline : Line.split delimiter line.1 = none)
    (hearlier : ∀ earlier ∈ lines, earlier.2 < line.2 → Line.split delimiter earlier.1 ≠ none) :
    readLines delimiter header lines = .error (.unterminatedQuote line.2) := by
  obtain ⟨front, back, rfl⟩ := List.append_of_mem hmem
  have hfront : ∀ earlier ∈ front, (Line.split delimiter earlier.1).isNone = false := by
    intro earlier hin
    have hlt := (List.pairwise_append.1 hlines).2.2 earlier hin line List.mem_cons_self
    have hsome := hearlier earlier (List.mem_append_left _ hin) hlt
    exact Option.isNone_eq_false_iff.2 (Option.isSome_iff_ne_none.2 hsome)
  have hfind : (front ++ line :: back).find? (fun line => (Line.split delimiter line.1).isNone) =
      some line := by
    rw [List.find?_eq_some_iff_append]
    refine ⟨by simp [hline], front, back, rfl, ?_⟩
    intro earlier hin
    rw [hfront earlier hin]
    rfl
  rw [readLines, hfind]

theorem readLines_of_all {lines : List (List Char × Nat)}
    (h : ∀ line ∈ lines, Line.split delimiter line.1 ≠ none) :
    readLines delimiter header lines = .ok (lines.map (rowOf delimiter header)) := by
  have hfind : lines.find? (fun line => (Line.split delimiter line.1).isNone) = none := by
    rw [List.find?_eq_none]
    intro line hline hnone
    exact h line hline (Option.isNone_iff_eq_none.1 hnone)
  rw [readLines, hfind]

theorem decode_eq_missingHeader_iff {text : String} :
    decode delimiter text = .error .missingHeader ↔ linesOf text = [] := by
  cases hlines : linesOf text with
  | nil =>
      rw [decode, ← linesOf_eq, hlines]
      exact iff_of_true rfl rfl
  | cons first data =>
      have hfirst : (linesOf text).head? = some first := by rw [hlines]; rfl
      refine iff_of_false ?_ (List.cons_ne_nil first data)
      cases hheader : Line.split delimiter first with
      | none =>
          rw [decode_of_open hfirst hheader]
          exact fun h => by cases h
      | some header =>
          by_cases hlacking : lacking header = []
          · rw [decode_of_header hfirst hheader hlacking, readLines]
            split <;> exact fun h => by cases h
          · rw [decode_of_lacking hfirst hheader hlacking]
            exact fun h => by cases h

/-- A line says the same in two tables with the same header line. -/
theorem exists_fields {text other : String} (hfirst : (linesOf other).head? = (linesOf text).head?)
    {rows others : List Row} (htext : decode delimiter text = .ok rows)
    (hother : decode delimiter other = .ok others) {line : List Char} {number numberThere : Nat}
    (hline : (line, number) ∈ dataLines text) (hthere : (line, numberThere) ∈ dataLines other) :
    ∃ fields, ⟨number, fields⟩ ∈ rows ∧ ⟨numberThere, fields⟩ ∈ others := by
  obtain ⟨header, hheader, _, rfl⟩ := decode_eq_map_rowOf htext
  obtain ⟨header', hheader', _, rfl⟩ := decode_eq_map_rowOf hother
  rw [header?, hfirst, ← header?, hheader] at hheader'
  obtain rfl := Option.some.inj hheader'
  exact ⟨_, List.mem_map.2 ⟨_, hline, rfl⟩, List.mem_map.2 ⟨_, hthere, rfl⟩⟩

end

/-- What becomes of a table, by its lines: they are what stands in front of its line feeds and
behind the last of them, a byte order mark in front and a carriage return at the end of a line put
aside. Without a line the header is missing. A header line that cannot be split is reported as line
1, and a header that lacks required columns with just those, whatever stands below it. Then the
first line that is not blank and cannot be split is reported, and if there is none, the rows are
the lines that are not blank, with their numbers in increasing order. What a line makes of its row
is up to that line and the header line: in any two tables with the same header line that can both
be read, it makes the same fields. A line that cannot be split is one that ends inside quotes, at
least where the delimiter is not a quote itself. -/
theorem decode_accounts_for_lines (delimiter : Char) (text : String) :
    (∀ mark body ended last, text.toList = mark ++ body →
      (mark = ['\ufeff'] ∨ mark = [] ∧ body.head? ≠ some '\ufeff') → Text.Pieces body ended last →
      linesOf text = ended.map Text.withoutReturn ++ if last = [] then [] else [last]) ∧
      (decode delimiter text = .error .missingHeader ↔ linesOf text = []) ∧
      (∀ first, (linesOf text).head? = some first →
        (Line.split delimiter first = none →
          decode delimiter text = .error (.unterminatedQuote 1)) ∧
        ∀ header, Line.split delimiter first = some header →
          (lacking header ≠ [] →
            decode delimiter text = .error (.missingColumns (lacking header))) ∧
          (lacking header = [] →
            (∀ line ∈ dataLines text, Line.split delimiter line.1 = none →
              (∀ earlier ∈ dataLines text, earlier.2 < line.2 →
                Line.split delimiter earlier.1 ≠ none) →
              decode delimiter text = .error (.unterminatedQuote line.2)) ∧
            ((∀ line ∈ dataLines text, Line.split delimiter line.1 ≠ none) →
              ∃ rows, decode delimiter text = .ok rows ∧
                rows.map Row.line = (dataLines text).map Prod.snd ∧
                (rows.map Row.line).Pairwise (· < ·)))) ∧
      (∀ other rows others, (linesOf other).head? = (linesOf text).head? →
        decode delimiter text = .ok rows → decode delimiter other = .ok others →
        ∀ line number numberThere, (line, number) ∈ dataLines text →
          (line, numberThere) ∈ dataLines other →
          ∃ fields, ⟨number, fields⟩ ∈ rows ∧ ⟨numberThere, fields⟩ ∈ others) ∧
      (delimiter ≠ '"' → ∀ line,
        Line.split delimiter line = none ↔ (Line.lastPlace delimiter line).isInside = true) := by
  refine ⟨?_, decode_eq_missingHeader_iff, ?_, ?_, Line.split_eq_none_iff⟩
  · intro mark body ended last htext hmark hpieces
    rw [← unmarked_of_mark htext hmark] at hpieces
    exact linesOf_of_pieces hpieces
  · intro first hfirst
    refine ⟨decode_of_open hfirst, ?_⟩
    intro header hheader
    refine ⟨decode_of_lacking hfirst hheader, ?_⟩
    intro hlacking
    rw [decode_of_header hfirst hheader hlacking]
    refine ⟨?_, ?_⟩
    · intro line hline hopen hearlier
      exact readLines_of_first (pairwise_lt_dataLines text) hline hopen hearlier
    · intro hsplit
      have hnumbers : ((dataLines text).map (rowOf delimiter header)).map Row.line =
          (dataLines text).map Prod.snd := by
        rw [List.map_map]
        rfl
      refine ⟨_, readLines_of_all hsplit, hnumbers, ?_⟩
      rw [hnumbers]
      exact List.pairwise_map.2 (pairwise_lt_dataLines text)
  · intro other rows others hfirst htext hother line number numberThere hline hthere
    exact exists_fields hfirst htext hother hline hthere

/-- A line that two tables share, one of which begins with a byte order mark; a table with two lines
that cannot be split; and a table behind a byte order mark whose header lacks a column, which counts
before the line that cannot be split. -/
theorem decode_accounts_for_lines_of_mixed :
    linesOf "\ufeffemail,role\r\n\r\r\na@b,x\r" =
        ["email,role".toList, ['\r'], "a@b,x\r".toList] ∧
      (∃ fields, Row.mk 5 fields ∈ [⟨2, ["b", "", "", ""]⟩, ⟨5, ["a@b", "x", "", ""]⟩] ∧
        Row.mk 2 fields ∈ [⟨2, ["a@b", "x", "", ""]⟩, ⟨3, ["c", "", "", ""]⟩]) ∧
      decode ',' "email,role\n \n\"a\"\"\r\nb,\"\n" = .error (.unterminatedQuote 3) ∧
      decode ',' "\ufeffemail,note\n\"a" = .error (.missingColumns [.role]) := by
  have htext : decode ',' "email,role\nb\n\n \r\na@b,x\n" =
      .ok [⟨2, ["b", "", "", ""]⟩, ⟨5, ["a@b", "x", "", ""]⟩] := by decide +kernel
  have hother : decode ',' "\ufeffemail,role\r\na@b,x\nc" =
      .ok [⟨2, ["a@b", "x", "", ""]⟩, ⟨3, ["c", "", "", ""]⟩] := by decide +kernel
  obtain ⟨hlines, _⟩ :=
    decode_accounts_for_lines ',' "\ufeffemail,role\r\n\r\r\na@b,x\r"
  obtain ⟨_, _, _, hfields, _⟩ := decode_accounts_for_lines ',' "email,role\nb\n\n \r\na@b,x\n"
  obtain ⟨_, _, hopen, _⟩ :=
    decode_accounts_for_lines ',' "email,role\n \n\"a\"\"\r\nb,\"\n"
  obtain ⟨_, _, hlacking, _⟩ := decode_accounts_for_lines ',' "\ufeffemail,note\n\"a"
  refine ⟨?_, ?_, ?_, ?_⟩
  · exact hlines ['\ufeff'] _ ["email,role\r".toList, "\r\r".toList] "a@b,x\r".toList rfl (.inl rfl)
      ⟨by decide +kernel, by decide +kernel, by decide +kernel⟩
  · exact hfields _ _ _ (by decide +kernel) htext hother "a@b,x".toList 5 2 (by decide +kernel)
      (by decide +kernel)
  · have hheader := (hopen "email,role".toList (by decide +kernel)).2
      ["email".toList, "role".toList] (by decide +kernel)
    exact (hheader.2 (by decide +kernel)).1 ("\"a\"\"".toList, 3) (by decide +kernel)
      (by decide +kernel) (by decide +kernel)
  · have hheader := (hlacking "email,note".toList (by decide +kernel)).2
      ["email".toList, "note".toList] (by decide +kernel)
    exact hheader.1 (by decide +kernel)

end Sheet
end Enrolment

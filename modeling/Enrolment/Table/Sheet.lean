import Enrolment.Table.Column
import Enrolment.Table.Line
import Enrolment.Text.Lines

/-!
An import table as text: a header line, then one line per row. The header decides where each
logical column stands; blank lines hold no row but are counted.
-/

namespace Enrolment

/-- One data line: its number in the text and its cells in canonical column order. -/
structure Row where
  line : Nat
  fields : List String
  deriving DecidableEq, Repr

/-- The cell of a column, empty if the row is too short. -/
def Row.field (row : Row) (column : Column) : String :=
  row.fields.getD column.position ""

inductive DecodeError where
  | missingHeader
  | missingColumns (columns : List Column)
  | unterminatedQuote (line : Nat)
  deriving DecidableEq, Repr

def DecodeError.message : DecodeError → String
  | missingHeader => "input is empty: a header row is required"
  | missingColumns columns =>
      "missing required columns: " ++ ", ".intercalate (columns.map Column.name)
  | unterminatedQuote line => "line " ++ toString line ++ ": unterminated quoted field"

namespace Sheet

/-- Where each column stands in a header: at the first name that stands for it. -/
def position (header : List (List Char)) (column : Column) : Option Nat :=
  header.findIdx? fun name => Column.ofHeader? name = some column

def missing (header : List (List Char)) : List Column :=
  Column.required.filter fun column => (position header column).isNone

/-- The cells of a data line in canonical order, empty where the line or the header has none. -/
def arrange (header cells : List (List Char)) : List String :=
  Column.all.map fun column =>
    match position header column with
    | some i => String.ofList (cells.getD i [])
    | none => ""

def cells (delimiter : Char) (number : Nat) (line : List Char) :
    Except DecodeError (List (List Char)) :=
  match Line.split delimiter line with
  | some cells => .ok cells
  | none => .error (.unterminatedQuote number)

/-- The rows of the data lines, the first of which has the given number. -/
def rows (delimiter : Char) (header : List (List Char)) :
    Nat → List (List Char) → Except DecodeError (List Row)
  | _, [] => .ok []
  | number, line :: lines =>
      if Text.allBlank line then
        rows delimiter header (number + 1) lines
      else do
        let row ← cells delimiter number line
        let rest ← rows delimiter header (number + 1) lines
        return ⟨number, arrange header row⟩ :: rest

def decodeLines (delimiter : Char) : List (List Char) → Except DecodeError (List Row)
  | [] => .error .missingHeader
  | first :: data => do
      let header ← cells delimiter 1 first
      if missing header = [] then
        rows delimiter header 2 data
      else
        .error (.missingColumns (missing header))

/-- Read an import table; a byte order mark in front of it is ignored. -/
def decode (delimiter : Char) (text : String) : Except DecodeError (List Row) :=
  decodeLines delimiter (Text.lines (Text.withoutMark text.toList))

end Sheet
end Enrolment

import Enrolment.Batch
import Enrolment.Table.Writing

/-!
The results of a batch as a table: a header, then one line per row in file order.
-/

namespace Enrolment
namespace Export

def header : List String :=
  ["line", "identifier", "role", "validation", "status", "detail"]

/-- The last cell of a row: the reasons against an invalid row, or why a valid one failed. -/
def detail : Verdict → Status → String
  | .invalid reasons, _ => "; ".intercalate reasons
  | .valid, .failed failure => failure.message
  | .valid, _ => ""

def validation : Verdict → String
  | .valid => "valid"
  | .invalid _ => "invalid"

def cells (row : RowStatus) : List String :=
  [toString row.record.line, row.record.identifier, row.record.role, validation row.verdict,
    row.status.name, detail row.verdict row.status]

end Export

def Batch.results (batch : Batch) (delimiter : Char) : String :=
  Sheet.write delimiter (Export.header :: batch.rows.map Export.cells)

end Enrolment

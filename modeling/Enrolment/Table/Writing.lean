import Enrolment.Table.Column
import Enrolment.Table.Line

/-!
Tables written as text: each line is its cells in written form and ends with a line feed. Beside
the general form stands the template, a header with one example row.
-/

namespace Enrolment
namespace Sheet

def writeLine (delimiter : Char) (cells : List String) : String :=
  String.ofList (Line.write delimiter (cells.map String.toList))

def writeCell (delimiter : Char) (cell : String) : String :=
  String.ofList (Line.writeCell delimiter cell.toList)

/-- Lines of strings, each ended by a line feed. -/
def write (delimiter : Char) (table : List (List String)) : String :=
  String.join (table.map fun cells => writeLine delimiter cells ++ "\n")

def canonicalHeader : List String :=
  Column.all.map Column.name

def templateHeader : List String :=
  ["user_email", "user_role", "teams", "metadata"]

def templateRow : List String :=
  ["john.doe@example.com", "internal_user", "team-alpha",
    "\x7b\"department\": \"engineering\"\x7d"]

def template (delimiter : Char) : String :=
  write delimiter [templateHeader, templateRow]

end Sheet
end Enrolment

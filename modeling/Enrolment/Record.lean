import Enrolment.Table.Sheet

/-!
The user that a row asks for, and the verdict of the row rules on it. Every rule is applied to
every record, so a record shows all of its faults at once, in rule order.
-/

namespace Enrolment

structure Record where
  /-- The line of the table that asks for the user. -/
  line : Nat
  identifier : String
  role : String
  /-- The team that the user joins. -/
  groupRef : Option String
  /-- Text handed on as it is. -/
  metadata : Option String
  deriving DecidableEq, Repr

/-- A cell that may be left out: empty means absent. -/
def optionalCell (cell : String) : Option String :=
  if cell = "" then none else some cell

def Record.ofRow (row : Row) : Record where
  line := row.line
  identifier := row.field .identifier
  role := row.field .role
  groupRef := optionalCell (row.field .groupRef)
  metadata := optionalCell (row.field .metadata)

inductive Rule where
  | identifierPresent
  | rolePresent
  | identifierIsAddress
  deriving DecidableEq, Repr

namespace Rule

/-- Every rule, in the order in which reasons are given. -/
def all : List Rule :=
  [identifierPresent, rolePresent, identifierIsAddress]

/-- An absent identifier breaks the first rule only. -/
def broken (record : Record) : Rule → Bool
  | identifierPresent => record.identifier = ""
  | rolePresent => record.role = ""
  | identifierIsAddress => record.identifier ≠ "" && !record.identifier.toList.contains '@'

def reason : Rule → String
  | identifierPresent => "identifier required"
  | rolePresent => "role required"
  | identifierIsAddress => "identifier must be an email address"

end Rule

inductive Verdict where
  | valid
  | invalid (reasons : List String)
  deriving DecidableEq, Repr

namespace Verdict

def isValid : Verdict → Bool
  | valid => true
  | invalid _ => false

/-- Why the record may not be submitted; nothing for a valid one. -/
def reasons : Verdict → List String
  | valid => []
  | invalid reasons => reasons

end Verdict

namespace Record

def faults (record : Record) : List Rule :=
  Rule.all.filter (Rule.broken record)

def check (record : Record) : Verdict :=
  match record.faults with
  | [] => .valid
  | faults => .invalid (faults.map Rule.reason)

end Record

/-- The record of each row with its verdict, in order. -/
def judge (rows : List Row) : List (Record × Verdict) :=
  rows.map fun row => (Record.ofRow row, (Record.ofRow row).check)

end Enrolment

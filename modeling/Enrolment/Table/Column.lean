import Enrolment.Text.Blank

/-!
The logical columns of an import table, and how the names of a header line are matched to them.
A header name is compared without the blanks around it and without regard to ASCII case.
-/

namespace Enrolment

inductive Column where
  | identifier
  | role
  | groupRef
  | metadata
  deriving DecidableEq, Repr, Inhabited

namespace Column

/-- Every column, in canonical order. -/
def all : List Column :=
  [identifier, role, groupRef, metadata]

def required : List Column :=
  [identifier, role]

/-- The name by which messages speak of the column. -/
def name : Column → String
  | identifier => "identifier"
  | role => "role"
  | groupRef => "group_ref"
  | metadata => "metadata"

/-- The header names of the column, in lower case. -/
def aliases : Column → List String
  | identifier => ["identifier", "user_email", "email"]
  | role => ["role", "user_role"]
  | groupRef => ["group_ref", "groupref", "teams", "team_id"]
  | metadata => ["metadata"]

def position : Column → Nat
  | identifier => 0
  | role => 1
  | groupRef => 2
  | metadata => 3

def isRequired (c : Column) : Bool :=
  required.contains c

/-- The column that a header name stands for. -/
def ofHeader? (header : List Char) : Option Column :=
  let key := String.ofList (Text.lowerAscii (Text.trim header))
  all.find? fun c => c.aliases.contains key

end Column
end Enrolment

import Enrolment.Http.Exchange
import Enrolment.Settings.Environment

/-!
The commands of the program: what can be asked of it, where it works, and what it leaves.
-/

namespace Enrolment

/-- What may be asked beside any command. -/
structure CommonOptions where
  config : Option String := none
  baseUrl : Option String := none
  apiKey : Option String := none
  delimiter : Option String := none
  logLevel : Option String := none
  logJson : Bool := false
  deriving DecidableEq, Repr

structure ImportOptions where
  concurrency : Option Nat := none
  timeout : Option Nat := none
  results : Option String := none
  json : Bool := false
  deriving DecidableEq, Repr

inductive Command where
  | template (output : Option String)
  | validate (file : String) (json : Bool)
  | submit (file : String) (options : ImportOptions)
  deriving DecidableEq, Repr

structure Invocation where
  options : CommonOptions
  command : Command
  deriving DecidableEq, Repr

/-- All that the program can see while it runs, what the logging library has against a log filter,
in its words, and what would keep the program from writing a file. -/
structure Surroundings where
  filterProblem? : String → Option String
  environment : Variables
  read : String → Except FileProblem ByteArray
  obstacle? : String → Option FileProblem
  network : Http.Network

/-- What a start of the program leaves. -/
structure Outcome where
  exitCode : Nat
  output : String := ""
  errors : String := ""
  written : Option (String × String) := none
  deriving DecidableEq, Repr

end Enrolment

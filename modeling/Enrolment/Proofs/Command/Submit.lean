import Enrolment.Command.Run
import Enrolment.LogFilter
import Enrolment.Proofs.Account.Rejection

/-!
What a submission from the command line fails of. All that can keep it from succeeding stands before
the run, in the settings and the input, or behind it, in the file for the results; what the proxy
answers does not count. Otherwise each valid row is submitted once, and what is shown and written
tells how all of them ended.
-/

namespace Enrolment

namespace Client

end Client

namespace Command
open Run

/-- How a command has a batch run. -/
def plan (surroundings : Surroundings) (settings : Settings) : Plan where
  policy := settings.submission.policy
  service := (Client.ofSettings settings.proxy).service surroundings.network
  cancellation := .never
  watched := true

section

variable {surroundings : Surroundings} {settings : Settings}

theorem neverCrashes_plan : (plan surroundings settings).NeverCrashes := by
  have hservice : (plan surroundings settings).service =
      (Client.ofSettings settings.proxy).service surroundings.network := by rw [plan]
  exact Client.neverCrashes_of_service hservice

end

theorem run_eq (surroundings : Surroundings) (settings : Settings) (batch : Batch) :
    run surroundings settings batch = batch.run (plan surroundings settings) := rfl

section

variable {surroundings : Surroundings} {settings : Settings} {file : String}
  {options : ImportOptions} {batch : Batch}

/-- What a submission shows and writes once its run is over. -/
def product (settings : Settings) (options : ImportOptions) (after : Batch) : Product where
  output := (if options.json then after.report.toJson.pretty else after.report.line) ++ "\n"
  written := options.results.map fun file => (file, after.results settings.input.delimiter)

end
end Command

namespace Invocation

section

variable {invocation : Invocation} {surroundings : Surroundings} {file : String}
  {options : ImportOptions}

end
end Invocation

namespace Outcome

section

variable {args : List String} {invocation : Invocation} {file : String} {options : ImportOptions}

end
end Outcome

/-- A file with two valid rows among others. The proxy creates the first user; the request for the
second is never answered. -/
def Surroundings.mixed : Surroundings where
  filterProblem? := LogFilter.problemWithoutPatterns?
  environment := fun _ => none
  read := fun file =>
    if file = "users.csv" then .ok Batch.mixedTable.toUTF8 else .error .missing
  obstacle? := fun _ => none
  network := fun number _ => ⟨if number = 0 then some ⟨0⟩ else none, .answered 201 [] true⟩

end Enrolment

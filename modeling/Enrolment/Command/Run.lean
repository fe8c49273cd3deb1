import Enrolment.Account.Client
import Enrolment.Command.Arguments
import Enrolment.Export
import Enrolment.Run.Outcome
import Enrolment.Settings.Check
import Enrolment.Settings.Reading
import Enrolment.Settings.VariableFile
import Enrolment.Table.Writing
import Enrolment.Wire.Writing

/-!
What the commands do. Settings come from the file of settings, then from the environment, then from
options, and are checked last. What becomes of single rows is part of the report and never makes a
command fail.
-/

namespace Enrolment

inductive CommandProblem where
  | settings (reason : SettingsProblem)
  | reading (file : String) (reason : FileProblem)
  | decoding (file : String) (reason : DecodeError)
  | writingTemplate (file : String) (reason : FileProblem)
  | writingResults (file : String) (reason : FileProblem)
  deriving DecidableEq, Repr

def CommandProblem.message : CommandProblem → String
  | settings reason => reason.message
  | reading file reason => "reading " ++ file ++ ": " ++ reason.message
  | decoding file reason => "decoding " ++ file ++ ": " ++ reason.message
  | writingTemplate file reason => "writing template to " ++ file ++ ": " ++ reason.message
  | writingResults file reason => "writing results to " ++ file ++ ": " ++ reason.message

namespace Surroundings

def readText (surroundings : Surroundings) (file : String) : Except FileProblem String :=
  (surroundings.read file).bind textOf

/-- The surroundings with the variables that the file `.env` sets, if it is there. -/
def withVariableFile (surroundings : Surroundings) : Surroundings :=
  match surroundings.read ".env" with
  | .ok content =>
      { surroundings with environment := VariableFile.load surroundings.environment content }
  | .error _ => surroundings

end Surroundings

/-- What a command is good for. -/
structure Product where
  output : String := ""
  written : Option (String × String) := none
  deriving DecidableEq, Repr

/-- Requests by the numbers of their calls, and how many may be under way at once and for how
long. -/
structure Dispatch where
  policy : Policy := .standard
  requests : List (Nat × Http.Request) := []
  deriving Repr

namespace Invocation

def baseSettings (invocation : Invocation) (surroundings : Surroundings) :
    Except SettingsProblem Settings :=
  match invocation.options.config with
  | some file => Settings.ofFile (surroundings.readText file)
  | none => .ok Settings.standard

/-- How many rows are submitted at once, and for how long, as the command has it. -/
def importOptions (invocation : Invocation) : ImportOptions :=
  match invocation.command with
  | .submit _ options => options
  | _ => {}

def withOptions (invocation : Invocation) (settings : Settings) :
    Except SettingsProblem Settings := do
  let options := invocation.options
  let settings := settings.put options.baseUrl Settings.withBaseUrl
  let settings := settings.put options.apiKey Settings.withApiKey
  let delimiter ← options.delimiter.mapM readDelimiter
  let settings := settings.put delimiter Settings.withDelimiter
  let settings := settings.put invocation.importOptions.concurrency Settings.withConcurrency
  return settings.put invocation.importOptions.timeout Settings.withTimeout

def settings (invocation : Invocation) (surroundings : Surroundings) :
    Except SettingsProblem Settings := do
  let base ← invocation.baseSettings surroundings
  match base.override surroundings.environment with
  | (_, some problem) => throw problem
  | (settings, none) => (← invocation.withOptions settings).checked

end Invocation

namespace Command

def batch (surroundings : Surroundings) (settings : Settings) (file : String) :
    Except CommandProblem Batch := do
  let text ← (surroundings.readText file).mapError (CommandProblem.reading file)
  (Batch.ofText settings.input.delimiter text).mapError (CommandProblem.decoding file)

def writing (surroundings : Surroundings) (file text : String)
    (problem : String → FileProblem → CommandProblem) :
    Except CommandProblem (String × String) :=
  match surroundings.obstacle? file with
  | some reason => .error (problem file reason)
  | none => .ok (file, text)

/-- Rows and report as JSON, all members sorted. -/
def judgementJson (batch : Batch) : String :=
  (Json.Value.object
    [("rows", .array (batch.rows.map RowStatus.toJson)),
      ("report", batch.report.toJson)]).canonical.pretty

def complaints (batch : Batch) : String :=
  String.join (batch.entries.map fun entry =>
    match entry.verdict with
    | .valid => ""
    | .invalid reasons =>
        "line " ++ toString entry.record.line ++ ": " ++ "; ".intercalate reasons ++ "\n")

def run (surroundings : Surroundings) (settings : Settings) (batch : Batch) :
    Batch × Run.Account :=
  batch.run {
    policy := settings.submission.policy
    service := (Client.ofSettings settings.proxy).service surroundings.network
    cancellation := .never
    watched := true }

def perform (surroundings : Surroundings) (settings : Settings) :
    Command → Except CommandProblem Product
  | .template output => do
      let text := Sheet.template settings.input.delimiter
      match output with
      | none => return { output := text }
      | some file =>
          return { written := some (← writing surroundings file text .writingTemplate) }
  | .validate file json => do
      let batch ← batch surroundings settings file
      if json then
        return { output := judgementJson batch ++ "\n" }
      else
        return { output := complaints batch ++ batch.report.line ++ "\n" }
  | .submit file options => do
      let batch ← batch surroundings settings file
      let (after, _) := run surroundings settings batch
      let results := after.results settings.input.delimiter
      let written ← options.results.mapM fun file =>
        writing surroundings file results .writingResults
      let report := after.report
      let shown := if options.json then report.toJson.pretty else report.line
      return { output := shown ++ "\n", written }

/-- What a command asks of the network: one request for each valid row of a file to submit, whether
or not the results can be written then. -/
def dispatch (surroundings : Surroundings) (settings : Settings) : Command → Dispatch
  | .submit file _ =>
      match batch surroundings settings file with
      | .ok batch =>
          { policy := settings.submission.policy
            requests := (Client.ofSettings settings.proxy).requests batch.validRecords }
      | .error _ => {}
  | _ => {}

end Command

namespace Invocation

def prepare (invocation : Invocation) (surroundings : Surroundings) :
    Except CommandProblem Settings := do
  if let some filter := invocation.options.logLevel then
    if let some reason := surroundings.filterProblem? filter then
      throw (.settings (.logLevel filter reason))
  (invocation.settings surroundings).mapError .settings

def perform (invocation : Invocation) (surroundings : Surroundings) :
    Except CommandProblem Product := do
  invocation.command.perform surroundings (← invocation.prepare surroundings)

end Invocation

namespace Outcome

def usage : String :=
  Program.description ++ "\n\n" ++
    "Usage: " ++ Program.command ++ " [OPTIONS] <COMMAND>\n\n" ++
    "Commands:\n" ++
    "  template [-o FILE]\n" ++
    "  validate FILE [--json]\n" ++
    "  import FILE [--concurrency N] [--timeout SECONDS] [--results FILE] [--json]\n\n" ++
    "Options:\n" ++
    "  --config FILE  --base-url URL  --api-key KEY  --delimiter CHARACTER\n" ++
    "  --log-level FILTER  --log-json\n"

def ofProduct : Except CommandProblem Product → Outcome
  | .ok product => { exitCode := 0, output := product.output, written := product.written }
  | .error problem => { exitCode := 1, errors := "Error: " ++ problem.message ++ "\n" }

def ofArguments (args : List String) (surroundings : Surroundings) : Outcome :=
  match Invocation.parse args with
  | .ok invocation => ofProduct (invocation.perform surroundings.withVariableFile)
  | .error .version =>
      { exitCode := 0, output := Program.command ++ " " ++ Program.version ++ "\n" }
  | .error .help => { exitCode := 0, output := usage }
  | .error .misuse => { exitCode := 2, errors := usage }

end Outcome

def Surroundings.dispatch (surroundings : Surroundings) (args : List String) : Dispatch :=
  let surroundings := surroundings.withVariableFile
  match Invocation.parse args with
  | .ok invocation =>
      match invocation.prepare surroundings with
      | .ok settings => invocation.command.dispatch surroundings settings
      | .error _ => {}
  | .error _ => {}

end Enrolment

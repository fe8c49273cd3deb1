import Enrolment.Command.Run
import Enrolment.Http.Connection
import Enrolment.LogFilter

/-!
The command line program: it looks up what a command may need, sends its requests, has the command
carried out with the replies, and prints and writes what that gives.
-/

namespace Enrolment
namespace Main

def problemOf : IO.Error → FileProblem
  | .inappropriateType _ _ details =>
      if details.toLower = "not a directory" then .notFolder else .isFolder
  | .permissionDenied _ _ _ => .notAllowed
  | _ => .missing

def readFile (path : String) : IO (Except FileProblem ByteArray) := do
  try
    return .ok (← IO.FS.readBinFile path)
  catch error =>
    return .error (problemOf error)

def ownVariables : List String :=
  ["LITELLM_PROXY_URL", "LITELLM_API_KEY", "LITELLM_MASTER_KEY", "USER_IMPORT_CONCURRENCY",
    "USER_IMPORT_TIMEOUT_SECS", "USER_IMPORT_DELIMITER"]

def inputFiles (args : List String) : List String :=
  match Invocation.parse args with
  | .error _ => []
  | .ok invocation =>
      let input := match invocation.command with
        | .template _ => none
        | .validate file _ | .submit file _ => some file
      invocation.options.config.toList ++ input.toList

/-- The file of variables in this folder, or else in the nearest one around it that has one. -/
def variableFile : Nat → String → IO (Except FileProblem ByteArray)
  | 0, _ => return .error .missing
  | depth + 1, path => do
      match ← readFile path with
      | .ok content => return .ok content
      | .error _ => variableFile depth ("../" ++ path)

/-- What the program can see before it has sent a request. -/
def look (args : List String) : IO Surroundings := do
  let assignments ← variableFile 64 ".env"
  let text := match assignments.bind textOf with
    | .ok text => text.toList
    | .error _ => []
  let names := ownVariables ++ VariableFile.references text
  let values ← names.mapM fun name => do return (name, ← IO.getEnv name)
  let files ← (inputFiles args).mapM fun file => do return (file, ← readFile file)
  return {
    filterProblem? := LogFilter.problemWithoutPatterns?
    environment := fun name => (values.lookup name).join
    read := fun file => ((".env", assignments) :: files).lookup file |>.getD (.error .missing)
    obstacle? := fun _ => none
    network := fun _ _ => .atOnce .unreachable }

/-- The network as far as the requests of a command have explored it. -/
def network (dispatch : Dispatch) : IO Http.Network := do
  let exchanges ← (Http.exchanges dispatch.policy dispatch.requests).block
  return fun number _ => (exchanges.lookup number).getD (.atOnce .unreachable)

/-- The problem with writing a file, which is written if there is none. -/
def write (file text : String) : IO (Option FileProblem) := do
  try
    IO.FS.writeFile file text
    return none
  catch error =>
    return some (problemOf error)

end Main
end Enrolment

open Enrolment in
def main (args : List String) : IO UInt32 := do
  let seen ← Main.look args
  let surroundings := { seen with network := ← Main.network (seen.dispatch args) }
  let outcome := Outcome.ofArguments args surroundings
  let problem ← match outcome.written with
    | some (file, text) => Main.write file text
    | none => pure none
  let outcome := match problem with
    | some _ => Outcome.ofArguments args { surroundings with obstacle? := fun _ => problem }
    | none => outcome
  IO.print outcome.output
  IO.eprint outcome.errors
  return outcome.exitCode.toUInt32

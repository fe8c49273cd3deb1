import Enrolment.Run.Plan

/-!
The settings of the program: which proxy creates the users, how rows are submitted to it, and how
the input is written.
-/

namespace Enrolment

structure ProxySettings where
  /-- The address that the paths of the proxy are appended to. -/
  baseUrl : String := "http://localhost:4000"
  apiKey : Option String := none
  /-- Seconds. -/
  connectTimeout : Nat := 10
  /-- Whether the proxy sends an invitation to each user. -/
  sendInvite : Bool := false
  deriving DecidableEq, Repr

structure SubmissionSettings where
  concurrency : Nat := 1
  timeout : Nat := 30
  deriving DecidableEq, Repr

/-- How many rows may be in progress at once at most. -/
def SubmissionSettings.concurrencyLimit : Nat := 64

structure InputSettings where
  delimiter : Char := ','
  deriving DecidableEq, Repr

structure Settings where
  proxy : ProxySettings := {}
  submission : SubmissionSettings := {}
  input : InputSettings := {}
  deriving DecidableEq, Repr

namespace Settings

def standard : Settings := {}

end Settings

/-- A text without the slashes at its end. -/
def withoutLastSlashes (cs : List Char) : List Char :=
  (cs.reverse.dropWhile (· = '/')).reverse

/-- The address that users are created at. -/
def ProxySettings.endpoint (proxy : ProxySettings) : String :=
  String.ofList (withoutLastSlashes proxy.baseUrl.toList) ++ "/user/new"

/-- What the settings mean for a run. -/
def SubmissionSettings.policy (settings : SubmissionSettings) : Policy :=
  (Policy.standard.withConcurrency settings.concurrency).withTimeout (.ofSeconds settings.timeout)

end Enrolment

import Enrolment.Settings
import Enrolment.Settings.Problem
import Enrolment.Text.Blank
import Enrolment.Url.Parse

/-!
The rules that settings have to keep before the program uses them. The first rule that is broken is
the one that is reported.
-/

namespace Enrolment

def baseUrlProblem? (text : String) : Option BaseUrlProblem :=
  match Url.parse text with
  | .error reason => some (.unreadable reason)
  | .ok url =>
      if url.scheme ≠ "http" ∧ url.scheme ≠ "https" then some (.badScheme url.scheme)
      else if url.host = none then some .noHost
      else if url.query.isSome || url.fragment.isSome then some .queryOrFragment
      else none

namespace ProxySettings

def problem? (proxy : ProxySettings) : Option SettingsProblem :=
  match baseUrlProblem? proxy.baseUrl with
  | some reason => some (.baseUrl reason)
  | none =>
      if proxy.connectTimeout = 0 then some .noConnectTimeout
      else if proxy.apiKey.any fun key => Text.allBlank key.toList then some .blankApiKey
      else none

end ProxySettings

namespace SubmissionSettings

def problem? (submission : SubmissionSettings) : Option SettingsProblem :=
  if submission.concurrency = 0 then some .noConcurrency
  else if concurrencyLimit < submission.concurrency then
    some (.highConcurrency submission.concurrency)
  else if submission.timeout = 0 then some .noTimeout
  else none

end SubmissionSettings

namespace InputSettings

def problem? (input : InputSettings) : Option SettingsProblem :=
  if input.delimiter = '"' then some .quoteDelimiter
  else if input.delimiter = '\n' ∨ input.delimiter = '\r' then some .lineBreakDelimiter
  else none

end InputSettings

namespace Settings

/-- The first rule that the settings break. -/
def problem? (settings : Settings) : Option SettingsProblem :=
  (settings.proxy.problem?.or settings.submission.problem?).or settings.input.problem?

def checked (settings : Settings) : Except SettingsProblem Settings :=
  match settings.problem? with
  | none => .ok settings
  | some problem => .error problem

end Settings
end Enrolment

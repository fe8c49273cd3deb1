import Enrolment.Folder
import Enrolment.Settings
import Enrolment.Text.Literal
import Enrolment.Url.Host

/-!
What can be wrong with settings, and how it is told.
-/

namespace Enrolment

inductive NumberProblem where
  | empty
  | badDigit
  | tooLarge
  deriving DecidableEq, Repr

def NumberProblem.message : NumberProblem → String
  | empty => "cannot parse integer from empty string"
  | badDigit => "invalid digit found in string"
  | tooLarge => "number too large to fit in target type"

inductive BaseUrlProblem where
  | unreadable (reason : UrlError)
  | badScheme (scheme : String)
  | noHost
  /-- Paths are appended to the address, so that nothing may follow its own path. -/
  | queryOrFragment
  deriving DecidableEq, Repr

/-- The text of a problem; `context` names the address. -/
def BaseUrlProblem.message (context : String) : BaseUrlProblem → String
  | unreadable reason => context ++ " has invalid URL format: " ++ reason.message
  | badScheme scheme => context ++ " must use http:// or https:// scheme, got: " ++ scheme
  | noHost => context ++ " URL must have a valid host"
  | queryOrFragment => context ++ " must not contain a query string or fragment"

inductive SettingsProblem where
  | unreadableFile (reason : FileProblem)
  | unreadableText
  | concurrencyText (reason : NumberProblem)
  | timeoutText (reason : NumberProblem)
  | delimiterText (text : String)
  | baseUrl (reason : BaseUrlProblem)
  | noConnectTimeout
  | blankApiKey
  | noConcurrency
  | highConcurrency (concurrency : Nat)
  | noTimeout
  | quoteDelimiter
  | lineBreakDelimiter
  /-- The reason is in the words of the logging library. -/
  | logLevel (text reason : String)
  deriving DecidableEq, Repr

namespace SettingsProblem

def description : SettingsProblem → String
  | unreadableFile reason => "Failed to read config file: " ++ reason.message
  | unreadableText => "Failed to parse config"
  | concurrencyText reason => "Invalid concurrency: " ++ reason.message
  | timeoutText reason => "Invalid timeout: " ++ reason.message
  | delimiterText text => "Delimiter must be a single character, got " ++ Text.literal text
  | baseUrl reason => reason.message "Proxy base_url"
  | noConnectTimeout => "Proxy connect_timeout must be greater than 0"
  | blankApiKey => "Proxy api_key cannot be blank when set"
  | noConcurrency => "Submission concurrency must be at least 1"
  | highConcurrency concurrency =>
      "Submission concurrency " ++ toString concurrency ++ " is above the limit of " ++
        toString SubmissionSettings.concurrencyLimit
  | noTimeout => "Submission timeout must be greater than 0"
  | quoteDelimiter => "Delimiter cannot be a double quote"
  | lineBreakDelimiter => "Delimiter cannot be a line break"
  | logLevel text reason => "Invalid log level " ++ Text.literal text ++ ": " ++ reason

def message (problem : SettingsProblem) : String :=
  "Configuration error: " ++ problem.description

end SettingsProblem
end Enrolment

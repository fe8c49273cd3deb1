import Enrolment.Settings.Check
import Enrolment.Settings.Environment

/-!
Settings put together in layers: assignments and the environment in any order, with checks in
between that change nothing. A layer that fails leaves what it had set until then.
-/

namespace Enrolment

inductive Assignment where
  | baseUrl (url : String)
  | apiKey (key : Option String)
  | connectTimeout (seconds : Nat)
  | sendInvite (send : Bool)
  | concurrency (concurrency : Nat)
  | timeout (seconds : Nat)
  | delimiter (delimiter : Char)
  deriving DecidableEq, Repr

inductive Layer where
  | environment (vars : Variables)
  | assignment (assignment : Assignment)
  | check

namespace Settings

def assign (settings : Settings) : Assignment → Settings
  | .baseUrl url => settings.withBaseUrl url
  | .apiKey key => { settings with proxy := { settings.proxy with apiKey := key } }
  | .connectTimeout seconds =>
      { settings with proxy := { settings.proxy with connectTimeout := seconds } }
  | .sendInvite send => { settings with proxy := { settings.proxy with sendInvite := send } }
  | .concurrency concurrency => settings.withConcurrency concurrency
  | .timeout seconds => settings.withTimeout seconds
  | .delimiter delimiter => settings.withDelimiter delimiter

def apply (settings : Settings) : Layer → Settings × Option SettingsProblem
  | .environment vars => settings.override vars
  | .assignment assignment => (settings.assign assignment, none)
  | .check => (settings, settings.problem?)

end Settings
end Enrolment

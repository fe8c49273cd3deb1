import Enrolment.Settings
import Enrolment.Settings.Problem
import Enrolment.Text.Blank

/-!
Settings that the environment overrides. The variables are taken one after the other; one that
cannot be read stops this, and what was taken before stays.
-/

namespace Enrolment

def readDigits (n : Nat) : List Char → Except NumberProblem Nat
  | [] => .ok n
  | c :: cs =>
      if !c.isDigit then
        .error .badDigit
      else
        let n := 10 * n + (c.toNat - '0'.toNat)
        if UInt64.size ≤ n then .error .tooLarge else readDigits n cs

def readNumber : List Char → Except NumberProblem Nat
  | [] => .error .empty
  | ['+'] => .error .badDigit
  | '+' :: cs => readDigits 0 cs
  | cs => readDigits 0 cs

/-- A delimiter: one character, or a name for the tab. -/
def readDelimiter (text : String) : Except SettingsProblem Char :=
  if text = "tab" ∨ text = "\\t" then
    .ok '\t'
  else
    match text.toList with
    | [c] => .ok c
    | _ => .error (.delimiterText text)

abbrev Variables := String → Option String

namespace Settings

/-- The settings with a value put in, if there is one. -/
def put (settings : Settings) (value : Option α) (change : Settings → α → Settings) : Settings :=
  (value.map (change settings)).getD settings

/-- The settings with a value read and put in; as they are, with the reason, if it cannot be. -/
def take (settings : Settings) (text : Option String) (read : String → Except SettingsProblem α)
    (change : Settings → α → Settings) (next : Settings → Settings × Option SettingsProblem) :
    Settings × Option SettingsProblem :=
  match text.map read with
  | none => next settings
  | some (.ok value) => next (change settings value)
  | some (.error problem) => (settings, some problem)

def withBaseUrl (settings : Settings) (url : String) : Settings :=
  { settings with proxy := { settings.proxy with baseUrl := url } }

def withApiKey (settings : Settings) (key : String) : Settings :=
  { settings with proxy := { settings.proxy with apiKey := some key } }

def withConcurrency (settings : Settings) (concurrency : Nat) : Settings :=
  { settings with submission := { settings.submission with concurrency := concurrency } }

def withTimeout (settings : Settings) (timeout : Nat) : Settings :=
  { settings with submission := { settings.submission with timeout := timeout } }

def withDelimiter (settings : Settings) (delimiter : Char) : Settings :=
  { settings with input := { settings.input with delimiter := delimiter } }

/-- A number around which blanks may stand. -/
def readSpacedNumber (problem : NumberProblem → SettingsProblem) (text : String) :
    Except SettingsProblem Nat :=
  (readNumber (Text.trim text.toList)).mapError problem

/-- The settings as the environment overrides them, and what stopped that. -/
def override (settings : Settings) (vars : Variables) : Settings × Option SettingsProblem :=
  let key := (vars "LITELLM_API_KEY").or (vars "LITELLM_MASTER_KEY")
  let settings := settings.put (vars "LITELLM_PROXY_URL") withBaseUrl
  let settings := settings.put key withApiKey
  settings.take (vars "USER_IMPORT_CONCURRENCY") (readSpacedNumber .concurrencyText)
    withConcurrency fun settings =>
  settings.take (vars "USER_IMPORT_TIMEOUT_SECS") (readSpacedNumber .timeoutText)
    withTimeout fun settings =>
  settings.take (vars "USER_IMPORT_DELIMITER") readDelimiter withDelimiter fun settings =>
  (settings, none)

end Settings
end Enrolment

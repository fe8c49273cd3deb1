import Enrolment.Settings
import Enrolment.Yaml.Writing

/-!
Settings written as YAML text. The administrator's key is never written.
-/

namespace Enrolment
namespace Settings

def toYaml (settings : Settings) : String :=
  let text (s : String) : String := String.ofList (Yaml.written s.toList)
  let quoted (c : Char) : String := String.ofList (Yaml.quoted [c]) ++ "\n"
  let truth (b : Bool) : String := if b then "true\n" else "false\n"
  let number (n : Nat) : String := toString n ++ "\n"
  "proxy:\n" ++
    "  base_url: " ++ text settings.proxy.baseUrl ++
    "  connect_timeout: " ++ number settings.proxy.connectTimeout ++
    "  send_invite_email: " ++ truth settings.proxy.sendInvite ++
    "submission:\n" ++
    "  concurrency: " ++ number settings.submission.concurrency ++
    "  timeout: " ++ number settings.submission.timeout ++
    "input:\n" ++
    "  delimiter: " ++ quoted settings.input.delimiter

end Settings
end Enrolment

/-!
What the program calls itself.
-/

namespace Enrolment
namespace Program

def package : String := "litellm-user-import"

def command : String := "user-import"

def version : String := "0.1.0"

def description : String :=
  "Bulk user import for LiteLLM proxies: decode a CSV, validate every row, and create users " ++
    "with bounded concurrency and per-row status tracking"

def userAgent : String := package ++ "/" ++ version

end Program
end Enrolment

import Enrolment.Duration
import Enrolment.Url.Parse

/-!
Requests with a body of JSON, and what a network makes of them.
-/

namespace Enrolment
namespace Http

structure Request where
  url : Url
  /-- The credentials, one header line each. -/
  authorization : List String
  userAgent : String
  contentType : String
  body : String
  deriving Repr

def Request.target (request : Request) : String :=
  request.url.path ++ (request.url.query.map ("?" ++ ·)).getD ""

inductive Reply where
  /-- `whole` tells whether the body came to its announced end. -/
  | answered (status : Nat) (body : List UInt8) (whole : Bool)
  /-- The request was taken, but no answer came. -/
  | dropped
  /-- Nobody took the request. -/
  | unreachable
  deriving DecidableEq, Repr, Inhabited

/-- A reply, and after how long it is complete; without a time it never is. -/
structure Exchange where
  takes : Option Duration
  reply : Reply
  deriving DecidableEq, Repr, Inhabited

/-- A reply that comes at once. -/
def Exchange.atOnce (reply : Reply) : Exchange :=
  ⟨some ⟨0⟩, reply⟩

/-- What becomes of each request; requests are counted from 0. -/
abbrev Network := Nat → Request → Exchange

/-- Those of numbered requests that somebody takes, answered or not. -/
def Network.delivered (network : Network) (requests : List (Nat × Request)) : List Request :=
  (requests.filter fun (number, request) => (network number request).reply ≠ .unreachable).map
    (·.2)

/-- Whether a value may stand in a header line. -/
def isHeaderValue (value : String) : Bool :=
  value.toList.all fun c => (' ' ≤ c && c ≠ '\x7f') || c = '\t'

end Http
end Enrolment

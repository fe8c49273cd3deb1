import Enrolment.Account.Request
import Enrolment.Http.Exchange
import Enrolment.Http.Reason
import Enrolment.Program
import Enrolment.Settings
import Enrolment.Text.Base64
import Enrolment.Text.Utf8

/-!
The client of the proxy: the one request that creates a user, and what the answer means for the row.
-/

namespace Enrolment

structure Client where
  endpoint : String
  apiKey : Option String
  sendInvite : Bool
  deriving DecidableEq, Repr

namespace Client

def ofSettings (proxy : ProxySettings) : Client :=
  ⟨proxy.endpoint, proxy.apiKey, proxy.sendInvite⟩

/-- The credentials that a URL carries, as the value of a header line. -/
def urlCredentials? (url : Url) : Option String := do
  let user ← Url.unescapedText? url.user.toList
  let password := (Url.unescapedText? url.password.toList).getD ""
  guard (user ≠ "" || password ≠ "")
  return "Basic " ++ String.ofList (Text.base64 (user ++ ":" ++ password).toUTF8.toList)

/-- The request for a record. There is none if the endpoint is no address of the web or the key
cannot stand in a header line. -/
def request? (client : Client) (record : Record) : Option Http.Request := do
  let url ← (Url.parse client.endpoint).toOption
  guard (url.scheme = "http" || url.scheme = "https")
  let key := client.apiKey.map ("Bearer " ++ ·)
  guard (key.all Http.isHeaderValue)
  return {
    url
    authorization := (urlCredentials? url).toList ++ key.toList
    userAgent := Program.userAgent
    contentType := "application/json"
    body := NewUser.body record client.sendInvite }

/-- Where the proxy may have put its message, the most telling place first. -/
def messagePlaces : List (List String) :=
  [["error", "message"], ["error"], ["detail", "error"], ["detail", "message"], ["detail"],
    ["message"]]

/-- The value at a place of nested objects. -/
def valueAt? (place : List String) (value : Json.Value) : Option Json.Value :=
  place.foldl (fun found key => found.bind (Json.Value.get? key)) (some value)

def telling? (value : Json.Value) : Option String :=
  value.string?.bind fun text =>
    if Text.allBlank text.toList then none else some (Text.trimmed text)

/-- The message of an error that is told in JSON. -/
def messageIn? (value : Json.Value) : Option String :=
  messagePlaces.findSome? fun place => (valueAt? place value).bind telling?

/-- The message of a rejection: what the body tells in JSON, or the body, or if that is blank the
phrase for the status. -/
def rejectionMessage (status : Nat) (body : String) : String :=
  match (Json.Value.read body).bind messageIn? with
  | some message => message
  | none => if Text.allBlank body.toList then Http.reason status else Text.trimmed body

def bodyText (bytes : List UInt8) : String :=
  let text := Text.decodeAny bytes
  String.ofList (if text.head? = some '\ufeff' then text.drop 1 else text)

def isSuccess (status : Nat) : Bool :=
  200 ≤ status && status < 300

/-- What a reply means for the call. The body of a success is not looked at. -/
def ending : Http.Reply → Ending
  | .answered status body whole =>
      if isSuccess status then .created
      else if whole then .rejected (some status) (rejectionMessage status (bodyText body))
      else .unanswered "incomplete body"
  | .dropped => .unanswered "no answer"
  | .unreachable => .unanswered "no connection"

def conduct (client : Client) (network : Http.Network) (number : Nat) (record : Record) :
    Conduct :=
  match client.request? record with
  | none => .atOnce (.unanswered "no request")
  | some request =>
      let exchange := network number request
      ⟨exchange.takes, ending exchange.reply⟩

def requests (client : Client) (records : List Record) : List (Nat × Http.Request) :=
  records.zipIdx.filterMap fun (record, number) => (client.request? record).map (number, ·)

def service (client : Client) (network : Http.Network) : Service :=
  client.conduct network

end Client
end Enrolment

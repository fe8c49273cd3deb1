import Enrolment.Json.Printing
import Enrolment.Record

/-!
The body of the request that creates a user. Metadata that is JSON is sent as JSON, in canonical
form; anything else is sent as a string.
-/

namespace Enrolment

structure NewUser where
  email : String
  role : String
  teams : Option (List String)
  metadata : Option Json.Value
  sendInvite : Bool
  deriving Repr

namespace NewUser

/-- What metadata is sent as. -/
def metadataValue (text : String) : Json.Value :=
  (Json.Value.read text).getD (.string text)

def ofRecord (record : Record) (sendInvite : Bool) : NewUser where
  email := record.identifier
  role := record.role
  teams := record.groupRef.map ([·])
  metadata := record.metadata.map metadataValue
  sendInvite := sendInvite

/-- Members that are absent are left out. -/
def toJson (user : NewUser) : Json.Value :=
  .object <|
    [("user_email", .string user.email), ("user_role", .string user.role)] ++
      (user.teams.map fun teams => ("teams", Json.Value.array (teams.map .string))).toList ++
      (user.metadata.map fun value => ("metadata", value)).toList ++
      (if user.sendInvite then [("send_invite_email", .bool true)] else [])

def body (record : Record) (sendInvite : Bool) : String :=
  (ofRecord record sendInvite).toJson.compact

end NewUser
end Enrolment

import Enrolment.Text.Blank

/-!
The roles that the proxy knows. A record may name any role; one that is not known here is sent all
the same.
-/

namespace Enrolment

inductive UserRole where
  | proxyAdmin
  | proxyAdminViewer
  | internalUser
  | internalUserViewer
  deriving DecidableEq, Repr

namespace UserRole

def all : List UserRole :=
  [proxyAdmin, proxyAdminViewer, internalUser, internalUserViewer]

def name : UserRole → String
  | proxyAdmin => "proxy_admin"
  | proxyAdminViewer => "proxy_admin_viewer"
  | internalUser => "internal_user"
  | internalUserViewer => "internal_user_viewer"

def ofName? (name : String) : Option UserRole :=
  all.find? fun role => role.name = name

/-- The role that a user writes: blanks around it and ASCII case do not count. -/
def parse? (text : String) : Option UserRole :=
  ofName? (String.ofList (Text.lowerAscii (Text.trim text.toList)))

def unknownMessage (text : String) : String :=
  "unknown role: " ++ Text.trimmed text

end UserRole
end Enrolment

import Enrolment.Account.Role
import Enrolment.Json.Value
import Enrolment.Record
import Enrolment.Submission.Status

/-!
Records, verdicts, failures, statuses and roles read from JSON text.

Members may come in any order and unknown ones are passed over, whatever they hold; a known member
must not be repeated. A structure may also be given as the array of its members, and a case without
content as an object that maps its name to null. If the content of a case comes before its name it
is set aside as a value first, so its numbers must be in range, its strings must name characters and
it must not be nested too deeply.
-/

namespace Enrolment
namespace Wire

open Json

def keyed? : List (List Piece × Tree) → Option (List (String × Tree))
  | [] => some []
  | (pieces, item) :: members => do
      let key ← stringOf? pieces
      let members ← keyed? members
      return (key, item) :: members

/-- The member with a key, if there is one; nothing if it is repeated. -/
def sole? (members : List (String × Tree)) (key : String) : Option (Option Tree) :=
  match members.filter fun m => m.1 = key with
  | [] => some none
  | [(_, item)] => some (some item)
  | _ => none

/-- The member with a key, of which there must be one. -/
def required? (members : List (String × Tree)) (key : String) : Option Tree :=
  (sole? members key).bind id

def string? : Tree → Option String
  | .string pieces => stringOf? pieces
  | _ => none

def word? : Tree → Option Nat
  | .number numeral =>
      match Number.integer? numeral with
      | some (.ofNat n) => some n
      | _ => none
  | _ => none

/-- A string, or null or nothing at all. -/
def optional? : Option Tree → Option (Option String)
  | none => some none
  | some .null => some none
  | some item => (string? item).map some

def strings? : List Tree → Option (List String)
  | [] => some []
  | item :: items => do
      let s ← string? item
      let rest ← strings? items
      return s :: rest

/-- The name of a case without content. Among content that was set aside, an empty object does for
null. -/
def caseName? (setAside : Bool) : Tree → Option String
  | .string pieces => stringOf? pieces
  | .object [(pieces, .null)] => stringOf? pieces
  | .object [(pieces, .object [])] => if setAside then stringOf? pieces else none
  | _ => none

def record? : Tree → Option Record
  | .object members => do
      let members ← keyed? members
      let line ← (required? members "line").bind word?
      let identifier ← (required? members "identifier").bind string?
      let role ← (required? members "role").bind string?
      let groupRef ← (sole? members "group_ref").bind optional?
      let metadata ← (sole? members "metadata").bind optional?
      return { line, identifier, role, groupRef, metadata }
  | .array [line, identifier, role, groupRef, metadata] => do
      let line ← word? line
      let identifier ← string? identifier
      let role ← string? role
      let groupRef ← optional? (some groupRef)
      let metadata ← optional? (some metadata)
      return { line, identifier, role, groupRef, metadata }
  | _ => none

/-- The nesting that is left for the content of a case. -/
def contentDepth : Nat :=
  Value.depthLimit - 1

/-- A case with its name and its content, and whether the content was set aside. -/
structure Tagged where
  name : String
  content : Option Tree
  setAside : Bool

/-- The case of an object in which one member gives the name and another the content. -/
def tagged? (tag content : String) : Tree → Option Tagged
  | .object members => do
      let members ← keyed? members
      let name ← (required? members tag).bind (caseName? false)
      let item ← sole? members content
      let setAside :=
        item.isSome && (members.find? fun m => m.1 = tag || m.1 = content).any (·.1 = content)
      if setAside && !item.all fun t => t.value?.isSome && t.depth ≤ contentDepth then
        none
      else
        return ⟨name, item, setAside⟩
  | .array [name, item] => do
      let name ← caseName? false name
      return ⟨name, some item, false⟩
  | _ => none

/-- A case without content has none or null. -/
def isBare (content : Option Tree) : Bool :=
  match content with
  | none => true
  | some .null => true
  | _ => false

def verdict? (tree : Tree) : Option Verdict := do
  let case ← tagged? "outcome" "reasons" tree
  match case.name, case.content with
  | "valid", content => if isBare content then some .valid else none
  | "invalid", some (.array items) => (strings? items).map .invalid
  | _, _ => none

def failureKind? (setAside : Bool) (tree : Tree) : Option FailureKind := do
  match ← caseName? setAside tree with
  | "rejected" => some .rejected
  | "transport" => some .transport
  | "timeout" => some .timeout
  | _ => none

def failure? (setAside : Bool) : Tree → Option Failure
  | .object members => do
      let members ← keyed? members
      let kind ← (required? members "kind").bind (failureKind? setAside)
      let message ← (required? members "message").bind string?
      return ⟨kind, message⟩
  | .array [kind, message] => do
      let kind ← failureKind? setAside kind
      let message ← string? message
      return ⟨kind, message⟩
  | _ => none

def status? (tree : Tree) : Option Status := do
  let case ← tagged? "status" "detail" tree
  match case.name, case.content with
  | "not_submitted", content => if isBare content then some .notSubmitted else none
  | "pending", content => if isBare content then some .pending else none
  | "succeeded", content => if isBare content then some .succeeded else none
  | "failed", some detail => (failure? case.setAside detail).map .failed
  | _, _ => none

def role? (tree : Tree) : Option UserRole :=
  (caseName? false tree).bind UserRole.ofName?

end Wire

def Record.ofJson? (text : String) : Option Record :=
  (Json.Tree.parse text.toList).bind Wire.record?

def Verdict.ofJson? (text : String) : Option Verdict :=
  (Json.Tree.parse text.toList).bind Wire.verdict?

def Failure.ofJson? (text : String) : Option Failure :=
  (Json.Tree.parse text.toList).bind (Wire.failure? false)

def Status.ofJson? (text : String) : Option Status :=
  (Json.Tree.parse text.toList).bind Wire.status?

def UserRole.ofJson? (text : String) : Option UserRole :=
  (Json.Tree.parse text.toList).bind Wire.role?

end Enrolment

import Enrolment.Http.Exchange
import Enrolment.Text.Blank
import Enrolment.Text.Digits

/-!
Requests and replies as the bytes that go over a connection for one request only. A reply whose
head cannot be read counts as no answer; a body that breaks off before its announced end is kept as
far as it came.
-/

namespace Enrolment
namespace Http

def Request.head (request : Request) (length : Nat) : List String :=
  let host := (request.url.host.map Url.Host.text).getD ""
  let port := (request.url.port.map fun port => ":" ++ toString port).getD ""
  ["POST " ++ request.target ++ " HTTP/1.1", "content-type: " ++ request.contentType] ++
    request.authorization.map ("authorization: " ++ ·) ++
    ["user-agent: " ++ request.userAgent, "accept: */*", "host: " ++ host ++ port,
      "content-length: " ++ toString length, "connection: close"]

def Request.bytes (request : Request) : ByteArray :=
  let body := request.body.toUTF8
  (String.join ((request.head body.size).map (· ++ "\r\n")) ++ "\r\n").toUTF8 ++ body

/-- What stands in front of the first mark, and what stands behind it. -/
def cutAround (mark : List UInt8) : List UInt8 → Option (List UInt8 × List UInt8)
  | [] => none
  | byte :: bytes =>
      if mark.isPrefixOf (byte :: bytes) then
        some ([], bytes.drop (mark.length - 1))
      else
        (cutAround mark bytes).map fun (front, back) => (byte :: front, back)

theorem length_lt_of_cutAround {mark bytes front back : List UInt8}
    (h : cutAround mark bytes = some (front, back)) : back.length < bytes.length := by
  induction bytes generalizing front with
  | nil => simp [cutAround] at h
  | cons byte bytes ih =>
      rw [cutAround] at h
      split at h
      · simp only [Option.some.injEq, Prod.mk.injEq] at h
        simp only [← h.2, List.length_drop, List.length_cons]
        omega
      · obtain ⟨⟨f, b⟩, found, eq⟩ := Option.map_eq_some_iff.1 h
        simp only [Prod.mk.injEq] at eq
        obtain ⟨_, rfl⟩ := eq
        exact Nat.lt_succ_of_lt (ih found)

def lineEnd : List UInt8 :=
  [13, 10]

def plainText (bytes : List UInt8) : List Char :=
  bytes.map fun byte => Char.ofNat byte.toNat

/-- The parts that a body comes in, put together, each behind its size; whether the last one, which
is empty, came. -/
def joinParts (bytes : List UInt8) : List UInt8 × Bool :=
  match _h : cutAround lineEnd bytes with
  | none => ([], false)
  | some (line, rest) =>
      let digits := Text.trim (Text.cutAt ';' (plainText line)).1
      match if digits = [] then none else Text.numberIn? 16 digits with
      | none => ([], false)
      | some 0 => ([], (cutAround lineEnd rest).isSome)
      | some size =>
          let (more, whole) := joinParts (rest.drop (size + 2))
          (rest.take size ++ more, whole)
  termination_by bytes.length
  decreasing_by
    have := length_lt_of_cutAround _h
    simp only [List.length_drop]
    omega

/-- The lines in front of a body that is received: the status, and named fields. -/
structure Head where
  status : Nat
  fields : List (String × String)
  deriving DecidableEq, Repr

namespace Head

def status? (line : List Char) : Option Nat :=
  match Text.splitOn ' ' line with
  | version :: code :: _ =>
      if "HTTP/1.".toList.isPrefixOf version && code.length = 3 then Text.numberIn? 10 code
      else none
  | _ => none

def field? (line : List Char) : Option (String × String) := do
  let (name, value) := Text.cutAt ':' line
  return (String.ofList (Text.lowerAscii name), String.ofList (Text.trim (← value)))

def parse? (bytes : List UInt8) : Option Head := do
  match Text.splitOn '\n' ((plainText bytes).filter (· ≠ '\r')) with
  | [] => none
  | line :: lines => return ⟨← status? line, lines.filterMap field?⟩

def length? (head : Head) : Option Nat :=
  (head.fields.lookup "content-length").bind fun value => Text.numberIn? 10 value.toList

def isParted (head : Head) : Bool :=
  head.fields.contains ("transfer-encoding", "chunked")

def isBare (head : Head) : Bool :=
  head.status = 204 || head.status = 304

/-- The body in the bytes behind the head, and whether it came to its announced end. -/
def body (head : Head) (bytes : List UInt8) : List UInt8 × Bool :=
  if head.isBare then ([], true)
  else if head.isParted then joinParts bytes
  else
    match head.length? with
    | some length => (bytes.take length, length ≤ bytes.length)
    | none => (bytes, true)

end Head

/-- The reply that is made of all the bytes on a connection. Replies that only announce another one
are passed over. -/
def Reply.ofBytes (bytes : List UInt8) : Reply :=
  match _h : cutAround (lineEnd ++ lineEnd) bytes with
  | none => .dropped
  | some (front, rest) =>
      match Head.parse? front with
      | none => .dropped
      | some head =>
          if head.status < 200 then
            Reply.ofBytes rest
          else
            let (body, whole) := head.body rest
            .answered head.status body whole
  termination_by bytes.length
  decreasing_by exact length_lt_of_cutAround _h

end Http
end Enrolment

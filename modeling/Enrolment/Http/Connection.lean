import Enrolment.Http.Message
import Enrolment.Run.Plan
import Std.Async.DNS
import Std.Async.TCP
import Std.Async.Timer

/-!
Requests sent over real connections, each over one of its own. There is no encryption, so that
requests to `https` addresses reach nobody.
-/

namespace Enrolment
namespace Http

open Std.Async

def addresses (host : Url.Host) (port : UInt16) : Async (List Std.Net.SocketAddress) := do
  let withPort : Std.Net.IPAddr → Std.Net.SocketAddress
    | .v4 address => .v4 ⟨address, port⟩
    | .v6 address => .v6 ⟨address, port⟩
  let text := match host with
    | .ipv6 pieces => Url.ipv6Text pieces
    | host => host.text
  return ((← DNS.getAddrInfo text "").map withPort).toList

/-- A connection to the first address that takes one. -/
def connect : List Std.Net.SocketAddress → Async (Option TCP.Socket.Client)
  | [] => return none
  | address :: others => do
      try
        let client ← TCP.Socket.Client.mk
        client.connect address
        return some client
      catch _ => connect others

/-- All bytes that come before the connection ends. -/
partial def received (client : TCP.Socket.Client) (before : ByteArray) : Async ByteArray := do
  match ← client.recv? 65536 with
  | some bytes => if bytes.isEmpty then return before else received client (before ++ bytes)
  | none => return before

/-- The reply to a request. -/
def Request.send (request : Request) : Async Reply := do
  match request.url.scheme, request.url.host with
  | "http", some host =>
      let port := request.url.port.getD 80
      let client ← try connect (← addresses host port.toUInt16) catch _ => pure none
      match client with
      | none => return .unreachable
      | some client =>
          try
            client.send request.bytes
            return Reply.ofBytes (← received client .empty).toList
          catch _ => return .dropped
  | _, _ => return .unreachable

/-- What becomes of a request until it has taken too long. -/
def Request.exchange (request : Request) (timeout : Duration) : Async Exchange := do
  let start ← IO.monoNanosNow
  let answer : Async Exchange := do
    let reply ← request.send
    return ⟨some ⟨(← IO.monoNanosNow) - start⟩, reply⟩
  let silence : Async Exchange := do
    sleep (.ofNat (timeout.nanoseconds / 1000000 + 1))
    return ⟨none, .dropped⟩
  Async.race answer silence

/-- What becomes of requests, of which only so many are under way at once as a policy has slots. -/
def exchanges (policy : Policy) (requests : List (Nat × Request)) :
    Async (List (Nat × Exchange)) := do
  let lanes := min policy.slots requests.length
  let drive (lane : Nat) : Async (List (Nat × Exchange)) :=
    (requests.zipIdx.filter fun (_, place) => place % lanes = lane).mapM
      fun ((number, request), _) => do return (number, ← request.exchange policy.timeout)
  let driven ← Async.concurrentlyAll ((List.range lanes).map drive).toArray
  return driven.toList.flatten

end Http
end Enrolment

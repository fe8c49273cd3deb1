import Enrolment.Url.Address
import Enrolment.Url.Domain
import Enrolment.Url.Percent

/-!
The hosts of URLs, and what is wrong with a URL that cannot be read.
-/

namespace Enrolment

inductive UrlError where
  | relative
  | emptyHost
  | badPort
  | badIpv4
  | badIpv6
  | badDomain
  | badDomainCharacter
  deriving DecidableEq, Repr

def UrlError.message : UrlError → String
  | relative => "relative URL without a base"
  | emptyHost => "empty host"
  | badPort => "invalid port number"
  | badIpv4 => "invalid IPv4 address"
  | badIpv6 => "invalid IPv6 address"
  | badDomain => "invalid international domain name"
  | badDomainCharacter => "invalid domain character"

namespace Url

inductive Host where
  | domain (name : String)
  | ipv4 (address : Nat)
  | ipv6 (pieces : List Nat)
  deriving DecidableEq, Repr

namespace Host

def text : Host → String
  | domain name => name
  | ipv4 address => ipv4Text address
  | ipv6 pieces => "[" ++ ipv6Text pieces ++ "]"

def bracketed (cs : List Char) : Except UrlError Host :=
  match cs.getLast?, ipv6? cs.dropLast with
  | some ']', some pieces => .ok (.ipv6 pieces)
  | _, _ => .error .badIpv6

/-- A host by its name. A name that ends in a number is an IPv4 address or nothing. -/
def named (cs : List Char) : Except UrlError Host :=
  match (unescapedText? cs).bind fun text => asciiDomain? text.toList with
  | none => .error .badDomain
  | some [] => .error .emptyHost
  | some name =>
      if endsInNumber name then
        match ipv4? name with
        | some address => .ok (.ipv4 address)
        | none => .error .badIpv4
      else
        .ok (.domain (String.ofList name))

def parse : List Char → Except UrlError Host
  | [] => .error .emptyHost
  | '[' :: cs => bracketed cs
  | cs => named cs

/-- The characters that no host name has, whatever the scheme. -/
def isBreaking (c : Char) : Bool :=
  c = '\x00' || " \t\n\r#/:<>?@[\\]^|".toList.contains c

/-- The host of a URL with a scheme of which nothing is known: its name is kept as it is. -/
def parseOpaque : List Char → Except UrlError (Option Host)
  | [] => .ok none
  | '[' :: cs => (bracketed cs).map some
  | cs =>
      if cs.any isBreaking then .error .badDomainCharacter
      else .ok (some (.domain (String.ofList (escape isControl cs))))

end Host
end Url
end Enrolment

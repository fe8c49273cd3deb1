import Enrolment.Text.Digits
import Enrolment.Text.Split

/-!
Internet addresses as hosts. An IPv4 address has up to four numbers, decimal, octal or hexadecimal,
of which the last fills all places that are left. An IPv6 address has eight pieces of up to four
hexadecimal digits, one run of which may be left out; the last two may be written as an IPv4
address with four decimal numbers.
-/

namespace Enrolment
namespace Url

def ipv4Number? : List Char → Option Nat
  | [] => none
  | '0' :: 'x' :: cs | '0' :: 'X' :: cs => Text.numberIn? 16 cs
  | '0' :: c :: cs => Text.numberIn? 8 (c :: cs)
  | cs => Text.numberIn? 10 cs

/-- The parts between the dots of a host; a dot at its end does not count. -/
def dottedParts (cs : List Char) : List (List Char) :=
  let parts := Text.splitOn '.' cs
  if 1 < parts.length && parts.getLast? = some [] then parts.dropLast else parts

/-- Whether the last part of a host is a number, so that the host must be an IPv4 address. -/
def endsInNumber (cs : List Char) : Bool :=
  match (dottedParts cs).getLast? with
  | none | some [] => false
  | some part => part.all Char.isDigit || (ipv4Number? part).isSome

def ipv4OfNumbers? (numbers : List Nat) : Option Nat := do
  let last ← numbers.getLast?
  let front := numbers.dropLast
  guard (numbers.length ≤ 4 && front.all (· < 256) && last < Nat.pow 256 (5 - numbers.length))
  return front.foldl (256 * · + ·) 0 * Nat.pow 256 (4 - front.length) + last

def ipv4? (cs : List Char) : Option Nat := do
  ipv4OfNumbers? (← (dottedParts cs).mapM ipv4Number?)

def octet? (cs : List Char) : Option Nat := do
  let n ← Text.numberIn? 10 cs
  guard (!cs.isEmpty && n < 256 && (cs.head? ≠ some '0' || cs.length = 1))
  return n

def embeddedIpv4? (cs : List Char) : Option (List Nat) := do
  match ← (Text.splitOn '.' cs).mapM octet? with
  | [a, b, c, d] => return [256 * a + b, 256 * c + d]
  | _ => none

/-- One to four hexadecimal digits. -/
def piece? (cs : List Char) : Option Nat := do
  guard (!cs.isEmpty && cs.length ≤ 4)
  Text.numberIn? 16 cs

/-- The pieces between colons. The last may be an IPv4 address if the whole ends with it. -/
def pieces? (atEnd : Bool) : List (List Char) → Option (List Nat)
  | [] => some []
  | [part] =>
      if atEnd && part.contains '.' then embeddedIpv4? part
      else (piece? part).map ([·])
  | part :: parts => do
      let piece ← piece? part
      let more ← pieces? atEnd parts
      return piece :: more

def piecesOf? (atEnd : Bool) (cs : List Char) : Option (List Nat) :=
  if cs.isEmpty then some [] else pieces? atEnd (Text.splitOn ':' cs)

/-- A text cut at the first two colons in a row. -/
def cutAtGap : List Char → List Char × Option (List Char)
  | ':' :: ':' :: cs => ([], some cs)
  | [] => ([], none)
  | c :: cs =>
      let (front, back) := cutAtGap cs
      (c :: front, back)

/-- The eight pieces of an IPv6 address. A gap stands for one piece at least. -/
def ipv6? (cs : List Char) : Option (List Nat) :=
  match cutAtGap cs with
  | (all, none) => do
      let pieces ← piecesOf? true all
      guard (pieces.length = 8)
      return pieces
  | (front, some back) => do
      let front ← piecesOf? false front
      let back ← piecesOf? true back
      guard (front.length + back.length < 8)
      return front ++ List.replicate (8 - front.length - back.length) 0 ++ back

def ipv4Text (address : Nat) : String :=
  ".".intercalate ([3, 2, 1, 0].map fun place => toString (address / Nat.pow 256 place % 256))

def leadingZeros (pieces : List Nat) : Nat :=
  (pieces.takeWhile (· = 0)).length

/-- The longest run of zeros, the first of equals: how many pieces stand in front, and how many
zeros there are. -/
def longestGap : List Nat → Nat × Nat
  | [] => (0, 0)
  | piece :: pieces =>
      let here := leadingZeros (piece :: pieces)
      let (front, later) := longestGap pieces
      if later ≤ here then (0, here) else (front + 1, later)

def piecesText (pieces : List Nat) : String :=
  ":".intercalate (pieces.map fun piece => String.ofList (Nat.toDigits 16 piece))

/-- The text of an IPv6 address, in which the longest run of zeros is left out; a single zero is
written. -/
def ipv6Text (pieces : List Nat) : String :=
  let (front, zeros) := longestGap pieces
  if zeros < 2 then piecesText pieces
  else piecesText (pieces.take front) ++ "::" ++ piecesText (pieces.drop (front + zeros))

end Url
end Enrolment

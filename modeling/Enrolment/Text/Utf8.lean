/-!
UTF-8 read from any bytes: what is no text becomes a replacement character, one for each longest
start of a character and one for each byte that starts none.
-/

namespace Enrolment
namespace Text

/-- A character of which some bytes are read: how many are missing, between which bounds the next
one lies, and the bits so far. -/
structure Started where
  missing : Nat
  low : UInt8 := 0x80
  high : UInt8 := 0xbf
  bits : Nat
  deriving Repr

def replacement : Char := '\ufffd'

/-- What a first byte gives: a character, or the start of one. -/
def firstByte (b : UInt8) : List Char × Option Started :=
  if b < 0x80 then ([Char.ofNat b.toNat], none)
  else if b < 0xc2 then ([replacement], none)
  else if b < 0xe0 then ([], some { missing := 1, bits := b.toNat - 0xc0 })
  else if b < 0xf0 then
    let low := if b = 0xe0 then 0xa0 else 0x80
    let high := if b = 0xed then 0x9f else 0xbf
    ([], some { missing := 2, low, high, bits := b.toNat - 0xe0 })
  else if b < 0xf5 then
    let low := if b = 0xf0 then 0x90 else 0x80
    let high := if b = 0xf4 then 0x8f else 0xbf
    ([], some { missing := 3, low, high, bits := b.toNat - 0xf0 })
  else ([replacement], none)

def Started.further? (started : Started) (b : UInt8) : Option (List Char × Option Started) :=
  if started.low ≤ b ∧ b ≤ started.high then
    let bits := 64 * started.bits + (b.toNat - 0x80)
    if started.missing ≤ 1 then some ([Char.ofNat bits], none)
    else some ([], some { missing := started.missing - 1, bits })
  else
    none

def decodeFrom (started : Option Started) : List UInt8 → List Char
  | [] => if started.isSome then [replacement] else []
  | b :: bytes =>
      match started.bind (·.further? b) with
      | some (cs, next) => cs ++ decodeFrom next bytes
      | none =>
          let (cs, next) := firstByte b
          (if started.isSome then [replacement] else []) ++ cs ++ decodeFrom next bytes

/-- The text of bytes, whatever they are. -/
def decodeAny (bytes : List UInt8) : List Char :=
  decodeFrom none bytes

end Text
end Enrolment

/-!
Digits of any base up to sixteen, of either case, and the numbers that they make.
-/

namespace Enrolment
namespace Text

def hexDigit? (c : Char) : Option Nat :=
  if '0' ≤ c ∧ c ≤ '9' then some (c.toNat - '0'.toNat)
  else if 'a' ≤ c ∧ c ≤ 'f' then some (c.toNat - 'a'.toNat + 10)
  else if 'A' ≤ c ∧ c ≤ 'F' then some (c.toNat - 'A'.toNat + 10)
  else none

def numberIn? (base : Nat) (cs : List Char) : Option Nat := do
  let digits ← cs.mapM hexDigit?
  guard (digits.all (· < base))
  return digits.foldl (fun n d => base * n + d) 0

def hexByte (byte : UInt8) : List Char :=
  [(Nat.digitChar (byte.toNat / 16)).toUpper, (Nat.digitChar (byte.toNat % 16)).toUpper]

end Text
end Enrolment

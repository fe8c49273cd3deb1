/-!
The finite magnitudes of double precision: whole multiples of a power of two, with at most 53 bits
and an exponent of at least -1074. Results are rounded to the nearest magnitude, a tie to the one
with even mantissa; a result beyond the largest magnitude is no magnitude.
-/

namespace Enrolment
namespace Decimal

/-- The magnitude `mantissa * 2 ^ exponent`. -/
structure Binary where
  mantissa : Nat
  exponent : Int
  deriving DecidableEq, Repr, Inhabited

def roundEven (num den : Nat) : Nat :=
  let floor := num / den
  let twice := 2 * (num % den)
  if twice < den then floor
  else if den < twice then floor + 1
  else if floor % 2 = 0 then floor else floor + 1

namespace Binary

def zero : Binary :=
  ⟨0, -1074⟩

def leastExponent : Int :=
  -1074

def greatestExponent : Int :=
  971

/-- `num / den` in units of `2 ^ exponent`, as a fraction. -/
def inUnits (num den : Nat) (exponent : Int) : Nat × Nat :=
  match exponent with
  | .ofNat n => (num, den * Nat.pow 2 n)
  | .negSucc n => (num * Nat.pow 2 (n + 1), den)

/-- The exponent with which a quotient has 53 bits before the point, or the least one. -/
def unitExponent (num den : Nat) : Int :=
  let guess : Int := (num.log2 : Int) - (den.log2 : Int) - 53
  let (n, d) := inUnits num den guess
  max leastExponent (if n < d * Nat.pow 2 53 then guess else guess + 1)

def ofRatio (num den : Nat) : Option Binary :=
  if num = 0 then
    some zero
  else
    let exponent := unitExponent num den
    let (n, d) := inUnits num den exponent
    let mantissa := roundEven n d
    let rounded : Binary :=
      if mantissa = Nat.pow 2 53 then ⟨Nat.pow 2 52, exponent + 1⟩ else ⟨mantissa, exponent⟩
    if rounded.exponent ≤ greatestExponent then some rounded else none

def ratio (x : Binary) : Nat × Nat :=
  match x.exponent with
  | .ofNat n => (x.mantissa * Nat.pow 2 n, 1)
  | .negSucc n => (x.mantissa, Nat.pow 2 (n + 1))

def isZero (x : Binary) : Bool :=
  x.mantissa = 0

def ofNat (n : Nat) : Option Binary :=
  ofRatio n 1

def mul (x y : Binary) : Option Binary :=
  let (a, b) := x.ratio
  let (c, d) := y.ratio
  ofRatio (a * c) (b * d)

def div (x y : Binary) : Option Binary :=
  let (a, b) := x.ratio
  let (c, d) := y.ratio
  ofRatio (a * d) (b * c)

def powerOfTen (n : Nat) : Option Binary :=
  ofRatio (Nat.pow 10 n) 1

end Binary
end Decimal
end Enrolment

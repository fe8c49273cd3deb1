import Enrolment.Decimal.Binary
import Enrolment.Decimal.Shortest
import Enrolment.Json.Token

/-!
The numbers that JSON text can carry: integers that fit 64 bits with or without sign, and
magnitudes of double precision with a sign for all others.

A number that is no such integer is read in two stages. Its digits are gathered as long as they
fit 64 bits; digits before the point that no longer fit only raise the exponent, and digits behind
it are dropped. Then the gathered number is rounded to double precision and scaled by a power of
ten, in steps of 308 decades at most.
-/

namespace Enrolment
namespace Json

inductive Number where
  | integer (value : Int)
  | real (negative : Bool) (magnitude : Decimal.Binary)
  deriving DecidableEq, Repr

def maxWord : Nat :=
  UInt64.size - 1

def digitsValue (ds : List Char) : Nat :=
  ds.foldl (fun n d => 10 * n + (d.toNat - '0'.toNat)) 0

namespace Number

/-- Gather the digits before the point: the number they make while it fits, and how many digits
are left over. -/
def gatherWhole : Nat → List Char → Nat × Nat
  | n, [] => (n, 0)
  | n, d :: ds =>
      let next := 10 * n + (d.toNat - '0'.toNat)
      if next ≤ maxWord then gatherWhole next ds else (n, ds.length + 1)

/-- Gather the digits behind the point: the number with those that fit, and how many do. -/
def gatherFraction : Nat → List Char → Nat × Nat
  | n, [] => (n, 0)
  | n, d :: ds =>
      let next := 10 * n + (d.toNat - '0'.toNat)
      if next ≤ maxWord then
        let (n, used) := gatherFraction next ds
        (n, used + 1)
      else
        (n, 0)

def decades : Nat :=
  308

def scaleDown (x : Decimal.Binary) (n : Nat) : Option Decimal.Binary :=
  if n ≤ decades then
    (Decimal.Binary.powerOfTen n).bind x.div
  else if x.isZero then
    some x
  else
    ((Decimal.Binary.powerOfTen decades).bind x.div).bind fun y => scaleDown y (n - decades)
  termination_by n
  decreasing_by
    have : decades = 308 := rfl
    omega

def scaleUp (x : Decimal.Binary) (n : Nat) : Option Decimal.Binary :=
  if n ≤ decades then
    (Decimal.Binary.powerOfTen n).bind x.mul
  else if x.isZero then
    some x
  else
    none

def scale (n : Nat) (exponent : Int) : Option Decimal.Binary :=
  (Decimal.Binary.ofNat n).bind fun x =>
    if 0 ≤ exponent then scaleUp x exponent.toNat else scaleDown x (-exponent).toNat

def maxExponent : Nat :=
  2147483647

/-- The exponent that the gathered digits get from a written one. -/
def addExponent (gathered : Int) (negative : Bool) (written : Nat) : Int :=
  max (-2147483648) (min maxExponent (if negative then gathered - written else gathered + written))

/-- The magnitude of a written number. An exponent too large to be written gives zero if it is
negative or if the digits are zeros. -/
def magnitude? (numeral : Numeral) : Option Decimal.Binary :=
  let (whole, extra) := gatherWhole 0 numeral.whole
  let (n, used) := gatherFraction whole (numeral.fraction.getD [])
  let gathered : Int := extra - used
  match numeral.exponent with
  | none => scale n gathered
  | some (negative, ds) =>
      if digitsValue ds ≤ maxExponent then
        scale n (addExponent gathered negative (digitsValue ds))
      else if n = 0 || negative then
        some .zero
      else
        none

/-- The integer of a written number, if it is written as one and fits 64 bits. -/
def integer? (numeral : Numeral) : Option Int :=
  let n := digitsValue numeral.whole
  match numeral.fraction, numeral.exponent with
  | none, none =>
      if numeral.negative then
        if 0 < n && n ≤ UInt64.size / 2 then some (-n) else none
      else
        if n ≤ maxWord then some n else none
  | _, _ => none

def ofNumeral? (numeral : Numeral) : Option Number :=
  match integer? numeral with
  | some value => some (integer value)
  | none => (magnitude? numeral).map (real numeral.negative)

/-- Digits with a point behind the first `point` of them; zeros fill up. -/
def plain (digits : List Char) (point : Int) : List Char :=
  if point ≤ 0 then
    '0' :: '.' :: (List.replicate (-point).toNat '0' ++ digits)
  else
    let n := point.toNat
    let whole := digits.take n ++ List.replicate (n - digits.length) '0'
    match digits.drop n with
    | [] => whole ++ ['.', '0']
    | fraction => whole ++ '.' :: fraction

def scientific (digits : List Char) (exponent : Int) : List Char :=
  let mantissa :=
    match digits with
    | d :: f :: fraction => d :: '.' :: f :: fraction
    | ds => ds
  let sign := if exponent < 0 then '-' else '+'
  mantissa ++ 'e' :: sign :: Nat.toDigits 10 exponent.natAbs

/-- The text of a magnitude: the shortest digits that read back, written out from 1e-5 up to below
1e16 and with an exponent elsewhere. -/
def textOfMagnitude (x : Decimal.Binary) : List Char :=
  if x.isZero then
    ['0', '.', '0']
  else
    let s := x.shortest
    let digits := Nat.toDigits 10 s.digits
    let point := s.exponent + digits.length
    if -5 < point && point ≤ 16 then plain digits point else scientific digits (point - 1)

def text : Number → List Char
  | integer (.ofNat n) => Nat.toDigits 10 n
  | integer (.negSucc n) => '-' :: Nat.toDigits 10 (n + 1)
  | real negative magnitude =>
      (if negative then ['-'] else []) ++ textOfMagnitude magnitude

end Number
end Json
end Enrolment

import Enrolment.Decimal.Binary

/-!
The shortest decimal that reads back as a magnitude; of several, the one nearest to it, and of two
equally near the even one.
-/

namespace Enrolment
namespace Decimal

/-- The number `digits * 10 ^ exponent`. -/
structure Scientific where
  digits : Nat
  exponent : Int
  deriving DecidableEq, Repr, Inhabited

namespace Binary

/-- Twice or four times the magnitude and the ends of the interval of numbers that round to it, in
one unit: the lower end, the magnitude, the upper end, and the exponent of the unit. Below the
magnitude the interval is half as wide if the mantissa is the least of its exponent. -/
def interval (x : Binary) : Nat × Nat × Nat × Int :=
  let m := x.mantissa
  if m = Nat.pow 2 52 && decide (leastExponent < x.exponent) then
    (4 * m - 1, 4 * m, 4 * m + 2, x.exponent - 2)
  else
    (2 * m - 1, 2 * m, 2 * m + 1, x.exponent - 1)

/-- Compare `a * 2 ^ p` with `d * 10 ^ q`. -/
def compareScaled (a : Nat) (p : Int) (d : Nat) (q : Int) : Ordering :=
  compare (a * Nat.pow 2 p.toNat * Nat.pow 10 (-q).toNat)
    (d * Nat.pow 10 q.toNat * Nat.pow 2 (-p).toNat)

/-- Whether a decimal rounds to the magnitude: it lies in the interval, ends included if the
mantissa is even. -/
def reads (x : Binary) (d : Nat) (q : Int) : Bool :=
  let (low, _, high, p) := x.interval
  let even := x.mantissa % 2 = 0
  (match compareScaled low p d q with
    | .lt => true
    | .eq => even
    | .gt => false) &&
  (match compareScaled high p d q with
    | .gt => true
    | .eq => even
    | .lt => false)

def floorAt (x : Binary) (q : Int) : Nat :=
  (x.mantissa * Nat.pow 2 x.exponent.toNat * Nat.pow 10 (-q).toNat) /
    (Nat.pow 10 q.toNat * Nat.pow 2 (-x.exponent).toNat)

/-- Of the two decimals with unit `10 ^ q` next to the magnitude, the one that reads back; of both,
the nearer. -/
def nearestAt (x : Binary) (q : Int) : Option Scientific :=
  let lower := x.floorAt q
  let upper := lower + 1
  match x.reads lower q, x.reads upper q with
  | true, true =>
      let (_, middle, _, p) := x.interval
      let pick := match compareScaled (2 * middle) p (lower + upper) q with
        | .lt => lower
        | .gt => upper
        | .eq => if lower % 2 = 0 then lower else upper
      some ⟨pick, q⟩
  | true, false => some ⟨lower, q⟩
  | false, true => some ⟨upper, q⟩
  | false, false => none

/-- How many decimal digits the magnitude has before the point, negative if it starts behind it. -/
def decimalExponent (x : Binary) : Int :=
  let guess : Int := ((x.mantissa.log2 : Int) + x.exponent) * 1233 / 4096 - 1
  let rec climb : Nat → Int → Int
    | 0, e => e
    | n + 1, e => if compareScaled x.mantissa x.exponent 1 e = .lt then e else climb n (e + 1)
  climb 6 guess

/-- The first hit among the grids of `count`, `count + 1`, … digits. -/
def shortestFrom (x : Binary) (whole : Int) : Nat → Nat → Option Scientific
  | 0, _ => none
  | tries + 1, count =>
      match x.nearestAt (whole - count) with
      | some found => some found
      | none => shortestFrom x whole tries (count + 1)

end Binary

def Scientific.stripped (s : Scientific) : Scientific :=
  let rec strip : Nat → Nat → Int → Scientific
    | 0, d, e => ⟨d, e⟩
    | n + 1, d, e => if d ≠ 0 && d % 10 = 0 then strip n (d / 10) (e + 1) else ⟨d, e⟩
  strip 20 s.digits s.exponent

/-- The shortest decimal that reads back as the magnitude. Seventeen digits always suffice. -/
def Binary.shortest (x : Binary) : Scientific :=
  if x.isZero then
    ⟨0, 0⟩
  else
    ((x.shortestFrom x.decimalExponent 17 1).getD ⟨0, 0⟩).stripped

end Decimal
end Enrolment

import Enrolment.Text.Combining
import Enrolment.Text.Decomposition

/-!
The composed normal form of text: characters are taken apart, the marks behind each are put in the
order of their classes, and what can be put together is.
-/

namespace Enrolment
namespace Text

def hangulParts? (n : Nat) : Option (List Char) :=
  if 0xac00 ≤ n ∧ n < 0xac00 + 11172 then
    let index := n - 0xac00
    let tail := index % 28
    some ([Char.ofNat (0x1100 + index / 588), Char.ofNat (0x1161 + index % 588 / 28)] ++
      if tail = 0 then [] else [Char.ofNat (0x11a7 + tail)])
  else
    none

def parts? (c : Char) : Option (List Char) :=
  ((hangulParts? c.toNat).or (composites.get? c)).or (replaced.get? c)

def apart : Nat → Char → List Char
  | 0, c => [c]
  | depth + 1, c =>
      match parts? c with
      | some cs => cs.flatMap (apart depth)
      | none => [c]

/-- No character stands for others by more steps. -/
def deepest : Nat := 8

/-- Put a character in front of a text, behind the marks there that come first by their classes. -/
def settle (c : Char) : List Char → List Char
  | [] => [c]
  | d :: ds =>
      if combiningClass d ≠ 0 && combiningClass d < combiningClass c then d :: settle c ds
      else c :: d :: ds

def decomposed (cs : List Char) : List Char :=
  (cs.flatMap (apart deepest)).foldr settle []

def hangulPair? (a b : Nat) : Option Char :=
  if 0x1100 ≤ a ∧ a < 0x1113 ∧ 0x1161 ≤ b ∧ b < 0x1176 then
    some (Char.ofNat (0xac00 + ((a - 0x1100) * 21 + (b - 0x1161)) * 28))
  else if 0xac00 ≤ a ∧ a < 0xac00 + 11172 ∧ (a - 0xac00) % 28 = 0 ∧ 0x11a7 < b ∧ b < 0x11c3 then
    some (Char.ofNat (a + (b - 0x11a7)))
  else
    none

def pair? (a b : Char) : Option Char :=
  (hangulPair? a.toNat b.toNat).or <|
    (composites.find? (·.images = [a.toNat, b.toNat])).map (Char.ofNat ·.first)

/-- A decomposed text put together, behind a character and the marks that did not join it. A mark
joins unless one of its class stands between. -/
def composeFrom (base : Option Char) (passed : List Char) : List Char → List Char
  | [] => base.toList ++ passed
  | c :: cs =>
      let free := passed.getLast?.all fun mark => combiningClass mark < combiningClass c
      match if free then base.bind (pair? · c) else none with
      | some joined => composeFrom (some joined) passed cs
      | none =>
          if combiningClass c = 0 then base.toList ++ passed ++ composeFrom (some c) [] cs
          else composeFrom base (passed ++ [c]) cs

def normal (cs : List Char) : List Char :=
  composeFrom none [] (decomposed cs)

end Text
end Enrolment

/-!
Sets of characters, given by the lengths of their runs: so many characters outside the set, then so
many inside, and so on from U+0000 on. What follows the last run is outside.
-/

namespace Enrolment
namespace Text

structure CharSet where
  runs : List Nat
  deriving Repr, Inhabited

namespace CharSet

/-- Whether a code is inside, the runs starting outside. -/
def within : List Nat → Nat → Bool
  | outside :: inside :: runs, n =>
      if n < outside then false
      else if n - outside < inside then true
      else within runs (n - outside - inside)
  | _, _ => false

def contains (set : CharSet) (c : Char) : Bool :=
  within set.runs c.toNat

def hexValue (ds : List Char) : Nat :=
  ds.foldl (fun n d =>
    16 * n + (if d.isDigit then d.toNat - '0'.toNat else d.toNat - 'a'.toNat + 10)) 0

/-- The set whose runs are written in hexadecimal, in rows with a space between two of them. -/
def ofHex (rows : List String) : CharSet :=
  ⟨rows.flatMap fun row => (row.splitOn " ").map fun word => hexValue word.toList⟩

end CharSet
end Text
end Enrolment

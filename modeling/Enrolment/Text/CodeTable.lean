import Enrolment.Text.Digits
import Enrolment.Text.Split

/-!
Tables from characters to texts, by code. Runs of codes whose images run along are one entry.
-/

namespace Enrolment
namespace Text

/-- So many codes, every `step`-th from a first one on. The images of the first are given; those of
the others lie as far behind them as the codes do. -/
structure CodeRun where
  first : Nat
  count : Nat := 1
  step : Nat := 1
  images : List Nat
  deriving DecidableEq, Repr, Inhabited

def CodeRun.images? (run : CodeRun) (code : Nat) : Option (List Nat) :=
  if run.first ≤ code ∧ code < run.first + run.count * run.step ∧
      (code - run.first) % run.step = 0 then
    some (run.images.map (· + (code - run.first)))
  else
    none

abbrev CodeTable := List CodeRun

namespace CodeTable

def hex (cs : List Char) : Nat :=
  (numberIn? 16 cs).getD 0

/-- An entry of a table, in which the first code is told by its distance from the one before. -/
def readRun (before : Nat) (word : List Char) : CodeRun :=
  let (codes, images) := cutAt ':' word
  let (distance, length) := codes.span fun c => c ≠ 'x' && c ≠ 'y'
  { first := before + hex distance
    count := if length = [] then 1 else hex (length.drop 1)
    step := if length.head? = some 'y' then 2 else 1
    images := (splitOn ',' (images.getD [])).map hex }

def readRuns (before : Nat) : List (List Char) → CodeTable
  | [] => []
  | word :: words =>
      let run := readRun before word
      run :: readRuns run.first words

/-- The table that is written in rows of words. An entry is the distance of its first code, then for
a run its length behind `x`, or behind `y` if it takes every other code, and the images behind a
colon; all numbers are hexadecimal. -/
def ofRows (rows : List String) : CodeTable :=
  readRuns 0 (rows.flatMap fun row => splitOn ' ' row.toList)

def images? (table : CodeTable) (code : Nat) : Option (List Nat) :=
  table.findSome? (·.images? code)

def get? (table : CodeTable) (c : Char) : Option (List Char) :=
  (table.images? c.toNat).map (·.map Char.ofNat)

end CodeTable
end Text
end Enrolment

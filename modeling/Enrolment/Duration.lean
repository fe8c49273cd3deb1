/-!
Spans of time in whole nanoseconds, and their text: the largest of the units s, ms, µs, ns that
is not larger than the span, with as many decimals as are needed and no more.
-/

namespace Enrolment

structure Duration where
  nanoseconds : Nat
  deriving DecidableEq, Repr, Inhabited

namespace Duration

def ofMillis (n : Nat) : Duration :=
  ⟨n * 1000000⟩

def ofSeconds (n : Nat) : Duration :=
  ⟨n * 1000000000⟩

def decimals (places n : Nat) : List Char :=
  match places with
  | 0 => []
  | places + 1 =>
      if n = 0 then
        []
      else
        Nat.digitChar (n / Nat.pow 10 places % 10) :: decimals places (n % Nat.pow 10 places)

def inUnits (places n : Nat) : String :=
  match decimals places (n % Nat.pow 10 places) with
  | [] => toString (n / Nat.pow 10 places)
  | ds => toString (n / Nat.pow 10 places) ++ "." ++ String.ofList ds

def text (d : Duration) : String :=
  if 1000000000 ≤ d.nanoseconds then
    inUnits 9 d.nanoseconds ++ "s"
  else if 1000000 ≤ d.nanoseconds then
    inUnits 6 d.nanoseconds ++ "ms"
  else if 1000 ≤ d.nanoseconds then
    inUnits 3 d.nanoseconds ++ "µs"
  else
    inUnits 0 d.nanoseconds ++ "ns"

end Duration
end Enrolment

/-!
Labels of domain names in ASCII: the ASCII characters first, then behind a hyphen where the others
are put in, each by its distance from the one before. Distances are written in digits of base 36
of which the lower ones may end a number, the bounds following the sizes seen so far.
-/

namespace Enrolment
namespace Url
namespace Punycode

def digitOf? (c : Char) : Option Nat :=
  if c.isLower then some (c.toNat - 'a'.toNat)
  else if c.isUpper then some (c.toNat - 'A'.toNat)
  else if c.isDigit then some (c.toNat - '0'.toNat + 26)
  else none

def digitChar (n : Nat) : Char :=
  if n < 26 then Char.ofNat ('a'.toNat + n) else Char.ofNat ('0'.toNat + (n - 26))

/-- The bound at a place of a number: a digit below it ends the number. -/
def bound (bias place : Nat) : Nat :=
  max 1 (min 26 (36 * (place + 1) - bias))

theorem bound_pos (bias place : Nat) : 1 ≤ bound bias place :=
  Nat.le_max_left _ _

/-- Places that a distance is expected to fill, and what is left of it. -/
def scale (places delta : Nat) : Nat × Nat :=
  if 455 < delta then scale (places + 1) (delta / 35) else (places, delta)
  termination_by delta
  decreasing_by exact Nat.div_lt_self (by omega) (by omega)

/-- The bias after a distance, with so many characters in the label. -/
def adapt (delta count : Nat) (first : Bool) : Nat :=
  let delta := if first then delta / 700 else delta / 2
  let (places, delta) := scale 0 (delta + delta / count)
  36 * places + 36 * delta / (delta + 38)

/-- A label of which some characters are put in, and a number that is being read. -/
structure Reading where
  label : List Char
  /-- The code that the next character has at least. -/
  code : Nat := 0x80
  /-- The place behind the last character. -/
  index : Nat := 0
  bias : Nat := 72
  place : Nat := 0
  weight : Nat := 1
  delta : Nat := 0

def Reading.put? (reading : Reading) : Option Reading := do
  let count := reading.label.length + 1
  let position := reading.index + reading.delta
  let code := reading.code + position / count
  guard code.isValidChar
  let index := position % count
  return {
    label := reading.label.take index ++ Char.ofNat code :: reading.label.drop index
    code, index := index + 1
    bias := adapt reading.delta count (reading.label.all fun c => c.toNat < 0x80) }

def read (reading : Reading) : List Char → Option (List Char)
  | [] => if reading.place = 0 then some reading.label else none
  | c :: cs => do
      let digit ← digitOf? c
      let limit := bound reading.bias reading.place
      let reading := { reading with delta := reading.delta + digit * reading.weight }
      if digit < limit then
        match reading.put? with
        | some reading => read reading cs
        | none => none
      else
        read { reading with
          place := reading.place + 1, weight := reading.weight * (36 - limit) } cs

def decode? (cs : List Char) : Option (List Char) :=
  let back := cs.reverse.takeWhile (· ≠ '-')
  let front := cs.take (cs.length - back.length - 1)
  if cs.all fun c => c.toNat < 0x80 then
    if front = [] then read { label := [] } cs
    else read { label := front } back.reverse
  else
    none

def digits (bias place n : Nat) : List Char :=
  let limit := bound bias place
  if n < limit then
    [digitChar n]
  else
    digitChar (limit + (n - limit) % (36 - limit)) ::
      digits bias (place + 1) ((n - limit) / (36 - limit))
  termination_by n
  decreasing_by
    have := bound_pos bias place
    exact Nat.lt_of_le_of_lt (Nat.div_le_self _ _) (by omega)

structure Writing where
  text : List Char := []
  delta : Nat := 0
  bias : Nat := 72
  count : Nat

def Writing.pass (basic code : Nat) (writing : Writing) (c : Char) : Writing :=
  if c.toNat < code then
    { writing with delta := writing.delta + 1 }
  else if c.toNat = code then
    { text := writing.text ++ digits writing.bias 0 writing.delta
      bias := adapt writing.delta (writing.count + 1) (writing.count = basic)
      count := writing.count + 1 }
  else
    writing

/-- Write the characters of a label by their codes, in rising order. -/
def write (label : List Char) (basic : Nat) (least : Nat) (writing : Writing) :
    List Nat → List Char
  | [] => writing.text
  | code :: codes =>
      let writing :=
        { writing with delta := writing.delta + (code - least) * (writing.count + 1) }
      let writing := label.foldl (Writing.pass basic code) writing
      write label basic (code + 1) { writing with delta := writing.delta + 1 } codes

def encode (label : List Char) : List Char :=
  let basic := label.filter fun c => c.toNat < 0x80
  let codes := ((label.map Char.toNat).filter (0x80 ≤ ·)).eraseDups.mergeSort
  basic ++ (if basic = [] then [] else ['-']) ++
    write label basic.length 0x80 { count := basic.length } codes

end Punycode
end Url
end Enrolment

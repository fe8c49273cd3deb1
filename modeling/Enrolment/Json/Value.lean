import Enrolment.Json.Number
import Enrolment.Json.Tree

/-!
JSON values. A text is a value if its numbers are in range and the escapes of its strings name
characters. Objects keep their members as written; the canonical form sorts them by key and keeps
the last of several with one key.
-/

namespace Enrolment
namespace Json

inductive Value where
  | null
  | bool (value : Bool)
  | number (value : Number)
  | string (value : String)
  | array (items : List Value)
  | object (members : List (String × Value))
  deriving Repr, Inhabited

def isHigh (n : Nat) : Bool :=
  0xd800 ≤ n && n < 0xdc00

def isLow (n : Nat) : Bool :=
  0xdc00 ≤ n && n < 0xe000

/-- The characters of a written string. Two code units of a pair make one character; one of them
alone makes none. -/
def charsOf? : List Piece → Option (List Char)
  | [] => some []
  | .char c :: ps => (charsOf? ps).map (c :: ·)
  | .unit n :: .unit m :: ps =>
      if isHigh n then
        if isLow m then
          (charsOf? ps).map (Char.ofNat (0x10000 + (n - 0xd800) * 0x400 + (m - 0xdc00)) :: ·)
        else
          none
      else if isLow n then
        none
      else
        (charsOf? (.unit m :: ps)).map (Char.ofNat n :: ·)
  | .unit n :: ps =>
      if isHigh n || isLow n then none else (charsOf? ps).map (Char.ofNat n :: ·)

/-- The string that pieces make. -/
def stringOf? (pieces : List Piece) : Option String :=
  (charsOf? pieces).map String.ofList

mutual

def Tree.value? : Tree → Option Value
  | .null => some .null
  | .bool value => some (.bool value)
  | .number numeral => (Number.ofNumeral? numeral).map .number
  | .string pieces => (stringOf? pieces).map .string
  | .array items => (valuesOf? items).map .array
  | .object members => (membersOf? members).map .object

def valuesOf? : List Tree → Option (List Value)
  | [] => some []
  | item :: items => do
      let value ← item.value?
      let values ← valuesOf? items
      return value :: values

def membersOf? : List (List Piece × Tree) → Option (List (String × Value))
  | [] => some []
  | (pieces, item) :: members => do
      let key ← stringOf? pieces
      let value ← item.value?
      let values ← membersOf? members
      return (key, value) :: values

end

namespace Value

/-- Put a member into an object that is sorted by key; a member with the same key gives way. -/
def insert (key : String) (value : Value) : List (String × Value) → List (String × Value)
  | [] => [(key, value)]
  | (k, v) :: members =>
      if key < k then (key, value) :: (k, v) :: members
      else if key = k then (key, value) :: members
      else (k, v) :: insert key value members

def sortMembers (members : List (String × Value)) : List (String × Value) :=
  members.foldl (fun sorted (key, value) => insert key value sorted) []

mutual

def canonical : Value → Value
  | array items => array (canonicalItems items)
  | object members => object (sortMembers (canonicalMembers members))
  | value => value

def canonicalItems : List Value → List Value
  | [] => []
  | item :: items => item.canonical :: canonicalItems items

def canonicalMembers : List (String × Value) → List (String × Value)
  | [] => []
  | (key, item) :: members => (key, item.canonical) :: canonicalMembers members

end

def parse (text : String) : Option Value :=
  ((Tree.parse text.toList).bind Tree.value?).map canonical

/-- How deeply a text may be nested to be read. -/
def depthLimit : Nat :=
  127

/-- The value of a text that is not nested too deeply, in canonical form. -/
def read (text : String) : Option Value :=
  (Tree.parse text.toList).bind fun tree =>
    if tree.depth ≤ depthLimit then tree.value?.map canonical else none

def get? (key : String) : Value → Option Value
  | object members => members.lookup key
  | _ => none

def string? : Value → Option String
  | string value => some value
  | _ => none

end Value
end Json
end Enrolment

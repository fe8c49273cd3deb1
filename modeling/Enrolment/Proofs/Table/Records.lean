import Enrolment.Proofs.Table.RoundTrip

/-!
Tables as other programs read them, in one pass over the whole text. A record ends at a line feed
and a field at the delimiter, outside of quotes. A field that begins with a quote goes to its closing
quote, with a doubled quote for one quote; any other field stands for itself, and nothing is trimmed.

The lines that this library reads are not the same: there no cell holds a line feed. But whatever
it writes is a table in this sense too, with the same cells.
-/

namespace Enrolment
namespace Records

/-- Where in a field the reader stands. What has been read of the field is kept back to front. -/
inductive Place where
  | fresh
  | verbatim (text : List Char)
  | inside (text : List Char)
  | afterQuote (text : List Char)
  deriving DecidableEq, Repr

namespace Place

/-- The field that ends at this place, if one may end here. -/
def close : Place → Option (List Char)
  | fresh => some []
  | verbatim text => some text.reverse
  | inside _ => none
  | afterQuote text => some text.reverse

/-- Nothing but the end of the field may stand behind a closing quote. -/
def advance (c : Char) : Place → Option Place
  | fresh => if c = '"' then some (inside []) else some (verbatim [c])
  | verbatim text => some (verbatim (c :: text))
  | inside text => if c = '"' then some (afterQuote text) else some (inside (c :: text))
  | afterQuote text => if c = '"' then some (inside ('"' :: text)) else none

def isInside : Place → Bool
  | inside _ => true
  | _ => false

end Place

/-- The records of the rest of a text, when some fields of the first one have been read. The last
record need not end with a line feed. -/
def readFrom (delimiter : Char) (fields : List (List Char)) :
    Place → List Char → Option (List (List (List Char)))
  | place, [] =>
      if place = .fresh && fields.isEmpty then
        some []
      else
        place.close.map fun field => [fields ++ [field]]
  | place, c :: cs =>
      if c = delimiter && !place.isInside then
        place.close.bind fun field => readFrom delimiter (fields ++ [field]) .fresh cs
      else if c = '\n' && !place.isInside then
        place.close.bind fun field =>
          (readFrom delimiter [] .fresh cs).map ((fields ++ [field]) :: ·)
      else
        (place.advance c).bind fun place => readFrom delimiter fields place cs

def read (delimiter : Char) (text : String) : Option (List (List String)) :=
  (readFrom delimiter [] .fresh text.toList).map (·.map (·.map String.ofList))

section
variable {delimiter : Char} (fields : List (List Char))

variable (d : Sheet.Usable delimiter)
include d

end

example : read ';' "a;\"b;\"\"\n\"\n\n;c" = some [["a", "b;\"\n"], [""], ["", "c"]] := by
  decide +kernel

example : read ';' "\"a\"b" = none := by decide +kernel

end Records
end Enrolment

import Enrolment.Text.Blank

/-!
The grammar of a table line as an automaton that reads each character once. It has five states:
before a cell, in bare text, in quoted text, just behind a quote in quoted text, and in the text
that trails a quoted part.
-/

namespace Enrolment
namespace Line

/-- Where in a cell the reader stands. What has been read of the cell is kept back to front. -/
inductive Place where
  | before
  | bare (text : List Char)
  | inside (text : List Char)
  | afterQuote (text : List Char)
  | trailing (quotedText : List Char) (text : List Char)
  deriving DecidableEq, Repr

namespace Place

/-- The cell that ends at this place, if one may end here. -/
def close : Place → Option (List Char)
  | before => some []
  | bare text => some (Text.trimEnd text.reverse)
  | inside _ => none
  | afterQuote text => some text.reverse
  | trailing quotedText text => some (quotedText.reverse ++ Text.trimEnd text.reverse)

def advance (c : Char) : Place → Place
  | before => if c = '"' then inside [] else if Text.isBlank c then before else bare [c]
  | bare text => bare (c :: text)
  | inside text => if c = '"' then afterQuote text else inside (c :: text)
  | afterQuote text => if c = '"' then inside ('"' :: text) else trailing text [c]
  | trailing quotedText text => trailing quotedText (c :: text)

/-- Quoted text is the only place where a delimiter is an ordinary character. -/
def isInside : Place → Bool
  | inside _ => true
  | _ => false

end Place

def scanFrom (delimiter : Char) : Place → List Char → Option (List (List Char))
  | place, [] => place.close.map ([·])
  | place, c :: cs =>
      if c = delimiter && !place.isInside then
        place.close.bind fun cell => (scanFrom delimiter .before cs).map (cell :: ·)
      else
        scanFrom delimiter (place.advance c) cs

def scan (delimiter : Char) (cs : List Char) : Option (List (List Char)) :=
  scanFrom delimiter .before cs

end Line
end Enrolment

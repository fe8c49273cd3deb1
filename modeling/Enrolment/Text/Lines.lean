/-!
The lines of a text. A line ends at a line feed; one carriage return directly before that line
feed belongs to the ending. What follows the last line feed is a line only if it is not empty,
and it keeps a carriage return at its end.
-/

namespace Enrolment
namespace Text

def lines : List Char → List (List Char)
  | [] => []
  | '\n' :: cs => [] :: lines cs
  | '\r' :: '\n' :: cs => [] :: lines cs
  | c :: cs =>
      match lines cs with
      | [] => [[c]]
      | l :: ls => (c :: l) :: ls

/-- The text without one byte order mark at its start. -/
def withoutMark : List Char → List Char
  | '\ufeff' :: cs => cs
  | cs => cs

end Text
end Enrolment

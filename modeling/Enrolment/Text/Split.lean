/-!
Texts cut at a separator.
-/

namespace Enrolment
namespace Text

/-- The parts of a text between separators: one more than there are separators. -/
def splitOn (separator : Char) : List Char → List (List Char)
  | [] => [[]]
  | c :: cs =>
      if c = separator then
        [] :: splitOn separator cs
      else
        match splitOn separator cs with
        | [] => [[c]]
        | part :: parts => (c :: part) :: parts

/-- What stands in front of the first separator, and what stands behind it if there is one. -/
def cutAt (separator : Char) : List Char → List Char × Option (List Char)
  | [] => ([], none)
  | c :: cs =>
      if c = separator then
        ([], some cs)
      else
        let (front, back) := cutAt separator cs
        (c :: front, back)

/-- What stands in front of the last separator, if there is one, and what stands behind it. -/
def cutAtLast (separator : Char) : List Char → Option (List Char) × List Char
  | [] => (none, [])
  | c :: cs =>
      match cutAtLast separator cs with
      | (some front, back) => (some (c :: front), back)
      | (none, back) => if c = separator then (some [], back) else (none, c :: back)

end Text
end Enrolment

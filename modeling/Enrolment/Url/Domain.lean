import Enrolment.Text.Normal
import Enrolment.Text.Split
import Enrolment.Url.Domain.Direction
import Enrolment.Url.Domain.Joining
import Enrolment.Url.Domain.Mapping
import Enrolment.Url.Domain.Punycode

/-!
Domain names in their ASCII form: letters in lower case, and labels with other characters encoded
behind a mark. Names that look the same have the same form.
-/

namespace Enrolment
namespace Url

def isForbidden (c : Char) : Bool :=
  c ≤ ' ' || c = '\x7f' || "%#/:<>?@[\\]^|".toList.contains c

/-- The mark of a label that stands for another one. -/
def encodedMark : List Char :=
  "xn--".toList

def isAscii (cs : List Char) : Bool :=
  cs.all fun c => c.toNat < 0x80

def isLabel (label : List Char) : Bool :=
  label.all isStable && Text.normal label = label && !label.head?.any Text.marks.contains &&
    !encodedMark.isPrefixOf label && joinersFit [] label

def shownLabel? (label : List Char) : Option (List Char) := do
  if encodedMark.isPrefixOf label then
    let shown ← Punycode.decode? (label.drop encodedMark.length)
    guard (!isAscii shown && isLabel shown)
    return shown
  else
    guard (isAscii label || isLabel label)
    return label

def asciiLabel (label : List Char) : List Char :=
  if isAscii label then label else encodedMark ++ Punycode.encode label

def shownLabels? (cs : List Char) : Option (List (List Char)) := do
  let mapped ← cs.mapM mapped?
  let text := if isAscii mapped.flatten then mapped.flatten else Text.normal mapped.flatten
  let labels ← (Text.splitOn '.' text).mapM shownLabel?
  guard (!labels.any isBackward || labels.all keepsDirection)
  return labels

def asciiDomain? (cs : List Char) : Option (List Char) := do
  let labels ← shownLabels? cs
  let name := List.intercalate ['.'] (labels.map asciiLabel)
  guard (!name.any isForbidden)
  return name

end Url
end Enrolment

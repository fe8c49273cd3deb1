import Enrolment.Text.Extending
import Enrolment.Text.Unprintable

/-!
Text shown as a literal in a message: between quotes, with escapes for quotes, backslashes, line
breaks and every character that could not be made out by itself.
-/

namespace Enrolment
namespace Text

/-- The escape that gives a character by its number. -/
def numbered (c : Char) : List Char :=
  '\\' :: 'u' :: '\x7b' :: (Nat.toDigits 16 c.toNat ++ ['\x7d'])

def literalChar (c : Char) : List Char :=
  if c = '\x00' then ['\\', '0']
  else if c = '\t' then ['\\', 't']
  else if c = '\r' then ['\\', 'r']
  else if c = '\n' then ['\\', 'n']
  else if c = '"' then ['\\', '"']
  else if c = '\\' then ['\\', '\\']
  else if extending.contains c || unprintable.contains c then numbered c
  else [c]

def literal (s : String) : String :=
  String.ofList ('"' :: (s.toList.flatMap literalChar ++ ['"']))

end Text
end Enrolment

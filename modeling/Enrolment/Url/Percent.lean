import Enrolment.Text.Digits

/-!
Percent escapes: a character that may not stand in a part of a URL is written by the bytes of its
UTF-8 form, each as a percent sign and two digits.
-/

namespace Enrolment
namespace Url

/-- Characters that stand for themselves nowhere in a URL. -/
def isControl (c : Char) : Bool :=
  c < ' ' || '~' < c

/-- Whether a character is escaped in a query. -/
def isQueryEscaped (special : Bool) (c : Char) : Bool :=
  isControl c || c = ' ' || c = '"' || c = '#' || c = '<' || c = '>' || (special && c = '\'')

def isFragmentEscaped (c : Char) : Bool :=
  isControl c || c = ' ' || c = '"' || c = '<' || c = '>' || c = '\x60'

def isPathEscaped (c : Char) : Bool :=
  isFragmentEscaped c || c = '#' || c = '?' || c = '^' || c = '\x7b' || c = '\x7d'

def isUserEscaped (c : Char) : Bool :=
  isPathEscaped c || "/:;=@[\\]|".toList.contains c

def escapedByte (byte : UInt8) : List Char :=
  '%' :: Text.hexByte byte

def escape (escaped : Char → Bool) (cs : List Char) : List Char :=
  cs.flatMap fun c =>
    if escaped c then (String.utf8EncodeChar c).flatMap escapedByte else [c]

/-- The bytes that a text with escapes stands for. A percent sign without two digits behind it
stands for itself. -/
def unescape : List Char → List UInt8
  | [] => []
  | '%' :: a :: b :: cs =>
      match Text.hexDigit? a, Text.hexDigit? b with
      | some high, some low => UInt8.ofNat (16 * high + low) :: unescape cs
      | _, _ => 0x25 :: unescape (a :: b :: cs)
  | c :: cs => String.utf8EncodeChar c ++ unescape cs

/-- The text that an escaped text stands for, if its bytes are the UTF-8 form of one. -/
def unescapedText? (cs : List Char) : Option String :=
  String.fromUTF8? ⟨(unescape cs).toArray⟩

end Url
end Enrolment

import Enrolment.Json.Value

/-!
JSON text of values, on one line without white space or laid out with an indent of two spaces.
Strings escape quotes, backslashes and control characters, and nothing else.
-/

namespace Enrolment
namespace Json

def hexDigit (n : Nat) : Char :=
  Nat.digitChar n

def writeChar (c : Char) : List Char :=
  if c = '"' then ['\\', '"']
  else if c = '\\' then ['\\', '\\']
  else if c = '\x08' then ['\\', 'b']
  else if c = '\t' then ['\\', 't']
  else if c = '\n' then ['\\', 'n']
  else if c = '\x0c' then ['\\', 'f']
  else if c = '\r' then ['\\', 'r']
  else if c < ' ' then ['\\', 'u', '0', '0', hexDigit (c.toNat / 16), hexDigit (c.toNat % 16)]
  else [c]

def writeString (s : String) : List Char :=
  '"' :: (s.toList.flatMap writeChar ++ ['"'])

def writeBool (value : Bool) : List Char :=
  if value then ['t', 'r', 'u', 'e'] else ['f', 'a', 'l', 's', 'e']

def writeNull : List Char :=
  ['n', 'u', 'l', 'l']

namespace Value

mutual

def write : Value → List Char
  | null => writeNull
  | bool value => writeBool value
  | number value => value.text
  | string value => writeString value
  | array items => '[' :: (writeItems items ++ [']'])
  | object members => '\x7b' :: (writeMembers members ++ ['\x7d'])

def writeItems : List Value → List Char
  | [] => []
  | [item] => item.write
  | item :: items => item.write ++ ',' :: writeItems items

def writeMembers : List (String × Value) → List Char
  | [] => []
  | [(key, item)] => writeString key ++ ':' :: item.write
  | (key, item) :: members => writeString key ++ ':' :: (item.write ++ ',' :: writeMembers members)

end

def compact (value : Value) : String :=
  String.ofList value.write

def newLine (depth : Nat) : List Char :=
  '\n' :: List.replicate (2 * depth) ' '

mutual

def layOut (depth : Nat) : Value → List Char
  | array [] => ['[', ']']
  | array items =>
      '[' :: (layOutItems (depth + 1) items ++ newLine depth ++ [']'])
  | object [] => ['\x7b', '\x7d']
  | object members =>
      '\x7b' :: (layOutMembers (depth + 1) members ++ newLine depth ++ ['\x7d'])
  | null => writeNull
  | bool value => writeBool value
  | number value => value.text
  | string value => writeString value

def layOutItems (depth : Nat) : List Value → List Char
  | [] => []
  | [item] => newLine depth ++ item.layOut depth
  | item :: items => newLine depth ++ item.layOut depth ++ ',' :: layOutItems depth items

def layOutMembers (depth : Nat) : List (String × Value) → List Char
  | [] => []
  | [(key, item)] => newLine depth ++ writeString key ++ ':' :: ' ' :: item.layOut depth
  | (key, item) :: members =>
      newLine depth ++ writeString key ++
        ':' :: ' ' :: (item.layOut depth ++ ',' :: layOutMembers depth members)

end

def pretty (value : Value) : String :=
  String.ofList (layOut 0 value)

end Value
end Json
end Enrolment

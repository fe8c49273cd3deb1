import Enrolment.Settings.Environment
import Enrolment.Text.Alphanumeric

/-!
Files that set variables, a name and a value on each line. Values may stand between quotes, go on
over several lines inside them, and refer to other variables. A variable that is set already keeps
its value. At a line that cannot be read everything before it counts and nothing behind it.
-/

namespace Enrolment
namespace VariableFile

/-- Where a line ends: behind white space a comment may start, between quotes the next line follows,
and the character behind a backslash does not count. -/
inductive Spot where
  | plain
  | space
  | escape
  | quoted (double escaped : Bool)
  deriving DecidableEq, Repr

/-- Outside quotes. -/
def Spot.outside (c : Char) (other : Spot) : Spot :=
  if c = '\\' then .escape
  else if c = '"' then .quoted true false
  else if c = '\'' then .quoted false false
  else other

def Spot.next (c : Char) : Spot → Spot
  | .plain => .outside c (if Text.isBlank c && c ≠ '\n' && c ≠ '\r' then .space else .plain)
  | .space => .outside c .plain
  | .escape => .plain
  | .quoted double true => .quoted double false
  | .quoted double false =>
      if c = '\\' then .quoted double true
      else if c = (if double then '"' else '\'') then .plain
      else .quoted double false

/-- A line up to a comment, and where it ends; nothing if a comment ended it. -/
def uncommented (spot : Spot) : List Char → List Char × Option Spot
  | [] => ([], some spot)
  | c :: cs =>
      if spot = .space && c = '#' then
        ([], none)
      else
        let (text, last) := uncommented (spot.next c) cs
        (c :: text, last)

def withoutEnding (line : List Char) : List Char :=
  match line.reverse with
  | '\n' :: '\r' :: cs => cs.reverse
  | '\n' :: cs => cs.reverse
  | _ => line

def isComment (cs : List Char) : Bool :=
  (Text.trimStart cs).head? = some '#'

/-- Lines put together where quotes span several. What is open at the end of the text is dropped. -/
def joined (spot : Spot) (started : List Char) : List (List Char) → List (List Char)
  | [] => []
  | line :: lines =>
      if isComment (started ++ line) then
        joined .plain [] lines
      else
        match uncommented spot line with
        | (text, none) => (started ++ text) :: joined .plain [] lines
        | (text, some .plain) => withoutEnding (started ++ text) :: joined .plain [] lines
        | (text, some spot) => joined spot (started ++ text) lines

inductive Reference where
  | none
  | bare
  | braced
  deriving DecidableEq, Repr

structure Value where
  text : List Char := []
  single : Bool := false
  double : Bool := false
  escaped : Bool := false
  /-- Behind white space only more of it and a comment may follow. -/
  ended : Bool := false
  reference : Reference := .none
  name : List Char := []

namespace Value

def add (value : Value) (c : Char) : Value :=
  { value with text := value.text ++ [c] }

/-- Put in what the variable that is referred to holds. -/
def refer (vars : Variables) (value : Value) : Value :=
  { value with
    text := value.text ++ ((vars (String.ofList value.name)).getD "").toList
    name := [], reference := .none }

def plain (value : Value) (c : Char) : Value :=
  if c = '$' then { value with reference := .bare }
  else if value.double then
    if c = '"' then { value with double := false }
    else if c = '\\' then { value with escaped := true }
    else value.add c
  else if c = '\'' then { value with single := true }
  else if c = '"' then { value with double := true }
  else if c = '\\' then { value with escaped := true }
  else if c = ' ' || c = '\t' then { value with ended := true }
  else value.add c

def inReference (vars : Variables) (value : Value) (c : Char) : Value :=
  if Text.alphanumeric.contains c then
    { value with name := value.name ++ [c] }
  else if value.reference = .braced then
    if c = '\x7d' then value.refer vars else { value with name := value.name ++ [c] }
  else if c = '\x7b' && value.name = [] then
    { value with reference := .braced }
  else if c = '$' then
    { value.refer vars with reference := .bare }
  else
    (value.refer vars).add c

def afterBackslash? (value : Value) (c : Char) : Option Value :=
  let value := { value with escaped := false }
  if c = 'n' then some (value.add '\n')
  else if c = '\\' || c = '\'' || c = '"' || c = '$' || c = ' ' then some (value.add c)
  else none

def read (vars : Variables) (value : Value) : List Char → Option Value
  | [] => some value
  | c :: cs =>
      if value.ended then
        if c = ' ' || c = '\t' then read vars value cs
        else if c = '#' then some value
        else none
      else if value.escaped then
        match value.afterBackslash? c with
        | some value => read vars value cs
        | none => none
      else if value.single then
        read vars (if c = '\'' then { value with single := false } else value.add c) cs
      else if value.reference ≠ .none then
        read vars (value.inReference vars c) cs
      else
        read vars (value.plain c) cs

end Value

def value? (vars : Variables) (cs : List Char) : Option String := do
  let value ← Value.read vars {} cs
  guard (value.reference ≠ .braced && !value.single && !value.double)
  return String.ofList (value.refer vars).text

/-- A name in front, and what stands behind it and the white space there. -/
def name? : List Char → Option (List Char × List Char)
  | [] => none
  | c :: cs =>
      if c.isAlpha || c = '_' then
        let (name, rest) := cs.span fun d => d.isAlphanum || d = '_' || d = '.'
        some (c :: name, Text.trimStart rest)
      else
        none

/-- The variable that a line sets. The word `export` may stand in front of its name. -/
def assignment? (vars : Variables) (line : List Char) : Option (String × String) := do
  let (name, rest) ← name? line
  let (name, rest) ←
    if name = "export".toList && rest.head? ≠ some '=' then name? rest else some (name, rest)
  guard (rest.head? = some '=')
  let text := Text.trimStart (rest.drop 1)
  let value ← if text = [] || isComment text then some "" else value? vars text
  return (String.ofList name, value)

def setAll (vars : Variables) : List (List Char) → Variables
  | [] => vars
  | line :: lines =>
      let text := Text.trim line
      if text = [] || isComment text then
        setAll vars lines
      else
        match assignment? vars text with
        | none => vars
        | some (name, value) =>
            setAll (fun other => (vars other).or (if other = name then some value else none)) lines

/-- The lines of a file, with their endings. -/
def byteLines : List UInt8 → List (List UInt8)
  | [] => []
  | b :: bytes =>
      if b = 0x0a then
        [b] :: byteLines bytes
      else
        match byteLines bytes with
        | [] => [[b]]
        | line :: lines => (b :: line) :: lines

def readableLines : List (List UInt8) → List (List Char)
  | [] => []
  | line :: lines =>
      match String.fromUTF8? ⟨line.toArray⟩ with
      | some text => text.toList :: readableLines lines
      | none => []

def withoutMark : List UInt8 → List UInt8
  | 0xef :: 0xbb :: 0xbf :: bytes => bytes
  | bytes => bytes

def load (vars : Variables) (content : ByteArray) : Variables :=
  setAll vars (joined .plain [] (readableLines (byteLines (withoutMark content.toList))))

/-- The names of variables that a text refers to, and perhaps some more. -/
def references : List Char → List String
  | [] => []
  | c :: cs =>
      if c = '$' then
        let bare := cs.takeWhile Text.alphanumeric.contains
        let braced := (cs.drop 1).takeWhile (· ≠ '\x7d')
        String.ofList bare :: String.ofList braced :: references cs
      else
        references cs

end VariableFile
end Enrolment

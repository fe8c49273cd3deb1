import Enrolment.Text.Digits
import Enrolment.Yaml.Cursor

/-!
Written forms of texts in YAML: plain where nothing can be misread, as a block where there are
several lines, else between quotes, and between double quotes with escapes where nothing else will
do. The lines of a text inside a mapping are indented by four.
-/

namespace Enrolment
namespace Yaml

def isPrintable (c : Char) : Bool :=
  c = '\n' || (' ' ≤ c && c ≤ '~') || ('\u00a0' ≤ c && c ≤ '\ufffd' && c ≠ '\ufeff')

/-- Whether two characters in a row satisfy two conditions. -/
def hasPair (p q : Char → Bool) (cs : List Char) : Bool :=
  (cs.zip (cs.drop 1)).any fun (a, b) => p a && q b

def needsEscapes (cs : List Char) : Bool :=
  cs.any (!isPrintable ·) || hasPair (· = ' ') isBreak cs

/-- Whether a text cannot stand between single quotes, where blanks behind a break are dropped. -/
def breaksSingleQuotes (cs : List Char) : Bool :=
  needsEscapes cs || hasPair isBreak (· = ' ') cs

def startsStructure : List Char → Bool
  | [] => false
  | c :: cs =>
      "#,[]\x7b\x7d&*!|>'\"%@\x60".toList.contains c ||
        ((c = '?' || c = ':' || c = '-') && (cs.head?.all fun d => isBlank d || isBreak d))

/-- Whether a colon or a hash inside a text would be read as a mark. -/
def hasMark (cs : List Char) : Bool :=
  let isGap (c : Char) : Bool := isBlank c || isBreak c
  (cs.getLast? = some ':' && 1 < cs.length) || hasPair (· = ':') isGap cs ||
    hasPair isGap (· = '#') cs

def isPlain (cs : List Char) : Bool :=
  let isEdge (c : Char) : Bool := c = ' ' || isBreak c
  !breaksSingleQuotes cs && !cs.any isBreak && !cs.head?.any isEdge && !cs.getLast?.any isEdge &&
    !startsStructure cs && !hasMark cs && !"---".toList.isPrefixOf cs && !"...".toList.isPrefixOf cs

/-- Words that some readers take for something other than text. -/
def loadedWords : List String :=
  ["", "true", "false", "null", "~", "y", "yes", "n", "no", "on", "off", "nil", "nan"]

def isLoaded (cs : List Char) : Bool :=
  loadedWords.contains (String.ofList (cs.map Char.toLower)) ||
    cs.head?.any fun c => c.isDigit || c = '-' || c = '.' || c = '+'

def margin : List Char :=
  List.replicate 4 ' '

def quotedRest (broken : Bool) : List Char → List Char
  | [] => if broken then margin ++ ['\''] else ['\'']
  | c :: cs =>
      if isBreak c then
        (if !broken && c = '\n' then ['\n', '\n'] else [c]) ++ quotedRest true cs
      else
        (if broken then margin else []) ++ (if c = '\'' then ['\'', '\''] else [c]) ++
          quotedRest false cs

/-- The digits of a number in so many places, in upper case. -/
def hexPlaces (places n : Nat) : List Char :=
  (List.range places).reverse.map fun place => (Nat.digitChar (n / Nat.pow 16 place % 16)).toUpper

def escapeOf (c : Char) : List Char :=
  let letters : List (Char × Char) :=
    [('\x00', '0'), ('\x07', 'a'), ('\x08', 'b'), ('\t', 't'), ('\n', 'n'), ('\x0b', 'v'),
      ('\x0c', 'f'), ('\r', 'r'), ('\x1b', 'e'), ('"', '"'), ('\\', '\\'), ('\u0085', 'N'),
      ('\u2028', 'L'), ('\u2029', 'P')]
  '\\' :: match letters.lookup c with
    | some letter => [letter]
    | none =>
        if c.toNat < 0x100 then 'x' :: hexPlaces 2 c.toNat
        else if c.toNat < 0x10000 then 'u' :: hexPlaces 4 c.toNat
        else 'U' :: hexPlaces 8 c.toNat

def doubleQuoted (cs : List Char) : List Char :=
  '"' :: (cs.flatMap fun c =>
    if !isPrintable c || isBreak c || c = '"' || c = '\\' then escapeOf c else [c]) ++ ['"']

def quoted (cs : List Char) : List Char :=
  if breaksSingleQuotes cs then doubleQuoted cs else '\'' :: quotedRest false cs

def blockRest (broken : Bool) : List Char → List Char
  | [] => if broken then [] else ['\n']
  | c :: cs =>
      if isBreak c then c :: blockRest true cs
      else (if broken then margin else []) ++ c :: blockRest false cs

/-- The mark of a block, which tells how its ends are to be read. -/
def blockMark (cs : List Char) : List Char :=
  let start := if cs.head?.any fun c => c = ' ' || isBreak c then ['2'] else []
  let stop := match cs.reverse with
    | [] => ['-']
    | last :: before =>
        if !isBreak last then ['-'] else if before.head?.all isBreak then ['+'] else []
  '|' :: start ++ stop

/-- A text as the value of a key, up to the end of its last line. -/
def written (cs : List Char) : List Char :=
  if cs.contains '\n' then
    if needsEscapes cs || cs.getLast? = some ' ' then doubleQuoted cs ++ ['\n']
    else blockMark cs ++ '\n' :: blockRest true cs
  else if isPlain cs && !isLoaded cs then
    cs ++ ['\n']
  else
    quoted cs ++ ['\n']

end Yaml
end Enrolment

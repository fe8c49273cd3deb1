import Enrolment.Json.Value

/-!
The grammar of JSON text: how each token may be spelled, which tokens a tree consists of, and that
white space may stand between any of them. Strings name characters and digits make numbers; with
that a tree stands for a value. Nothing here reads a text.
-/

namespace Enrolment
namespace Json

def Spacing (cs : List Char) : Prop :=
  ∀ c ∈ cs, c ∈ [' ', '\t', '\n', '\r']

def Digits (cs : List Char) : Prop :=
  cs ≠ [] ∧ ∀ c ∈ cs, '0' ≤ c ∧ c ≤ '9'

/-- The letters behind a backslash, and what they stand for. -/
def escapes : List (Char × Char) :=
  [('"', '"'), ('\\', '\\'), ('/', '/'), ('b', '\x08'), ('f', '\x0c'), ('n', '\n'), ('r', '\r'),
    ('t', '\t')]

def HexDigit (c : Char) (n : Nat) : Prop :=
  ['0', '1', '2', '3', '4', '5', '6', '7', '8', '9', 'a', 'b', 'c', 'd', 'e', 'f'][n]? = some c ∨
    ['0', '1', '2', '3', '4', '5', '6', '7', '8', '9', 'A', 'B', 'C', 'D', 'E', 'F'][n]? = some c

inductive Piece.Spelled : Piece → List Char → Prop
  | plain {c : Char} (hcontrol : ' ' ≤ c) (hquote : c ≠ '"') (hslash : c ≠ '\\') :
      Spelled (.char c) [c]
  | escape {letter c : Char} (h : (letter, c) ∈ escapes) : Spelled (.char c) ['\\', letter]
  | unit {a b c d : Char} {i j k l : Nat} (ha : HexDigit a i) (hb : HexDigit b j)
      (hc : HexDigit c k) (hd : HexDigit d l) :
      Spelled (.unit (((i * 16 + j) * 16 + k) * 16 + l)) ['\\', 'u', a, b, c, d]

inductive SpelledPieces : List Piece → List Char → Prop
  | nil : SpelledPieces [] []
  | cons {piece : Piece} {pieces : List Piece} {cs rest : List Char} (h : piece.Spelled cs)
      (hrest : SpelledPieces pieces rest) : SpelledPieces (piece :: pieces) (cs ++ rest)

/-- Only zero begins with the digit zero. -/
def SpelledWhole (cs : List Char) : Prop :=
  Digits cs ∧ (cs.head? = some '0' → cs = ['0'])

inductive SpelledFraction : Option (List Char) → List Char → Prop
  | none : SpelledFraction none []
  | some {ds : List Char} (h : Digits ds) : SpelledFraction (some ds) ('.' :: ds)

inductive SpelledSign : Bool → List Char → Prop
  | none : SpelledSign false []
  | plus : SpelledSign false ['+']
  | minus : SpelledSign true ['-']

inductive SpelledExponent : Option (Bool × List Char) → List Char → Prop
  | none : SpelledExponent none []
  | some {c : Char} {negative : Bool} {sign ds : List Char} (hc : c = 'e' ∨ c = 'E')
      (hsign : SpelledSign negative sign) (h : Digits ds) :
      SpelledExponent (some (negative, ds)) (c :: (sign ++ ds))

inductive Numeral.Spelled : Numeral → List Char → Prop
  | mk {negative : Bool} {whole : List Char} {fraction : Option (List Char)}
      {exponent : Option (Bool × List Char)} {cs cs' : List Char} (hwhole : SpelledWhole whole)
      (hfraction : SpelledFraction fraction cs) (hexponent : SpelledExponent exponent cs') :
      Spelled ⟨negative, whole, fraction, exponent⟩
        ((if negative then ['-'] else []) ++ (whole ++ (cs ++ cs')))

inductive Token.Spelled : Token → List Char → Prop
  | openBrace : Spelled openBrace ['\x7b']
  | closeBrace : Spelled closeBrace ['\x7d']
  | openBracket : Spelled openBracket ['[']
  | closeBracket : Spelled closeBracket [']']
  | colon : Spelled colon [':']
  | comma : Spelled comma [',']
  | null : Spelled null ['n', 'u', 'l', 'l']
  | true : Spelled (bool true) ['t', 'r', 'u', 'e']
  | false : Spelled (bool false) ['f', 'a', 'l', 's', 'e']
  | number {numeral : Numeral} {cs : List Char} (h : numeral.Spelled cs) :
      Spelled (number numeral) cs
  | string {pieces : List Piece} {cs : List Char} (h : SpelledPieces pieces cs) :
      Spelled (string pieces) ('"' :: (cs ++ ['"']))

/-- The text spells the tokens one behind the other, with white space around them. -/
inductive WrittenAs : List Token → List Char → Prop
  | nil {space : List Char} (hspace : Spacing space) : WrittenAs [] space
  | cons {token : Token} {tokens : List Token} {space cs rest : List Char} (hspace : Spacing space)
      (h : token.Spelled cs) (hrest : WrittenAs tokens rest) :
      WrittenAs (token :: tokens) (space ++ (cs ++ rest))

namespace Tree

mutual

/-- The tokens of a tree, in the order in which they are written. -/
def tokens : Tree → List Token
  | null => [.null]
  | bool value => [.bool value]
  | number numeral => [.number numeral]
  | string pieces => [.string pieces]
  | array items => .openBracket :: (itemTokens items ++ [.closeBracket])
  | object members => .openBrace :: (memberTokens members ++ [.closeBrace])

def itemTokens : List Tree → List Token
  | [] => []
  | [item] => item.tokens
  | item :: items => item.tokens ++ .comma :: itemTokens items

def memberTokens : List (List Piece × Tree) → List Token
  | [] => []
  | [(key, item)] => .string key :: .colon :: item.tokens
  | (key, item) :: members =>
      .string key :: .colon :: (item.tokens ++ .comma :: memberTokens members)

end

end Tree

/-- The characters that a string names. Two code units, a high one and a low one, name one
together. -/
inductive Names : List Piece → List Char → Prop
  | nil : Names [] []
  | char {c : Char} {pieces : List Piece} {cs : List Char} (h : Names pieces cs) :
      Names (.char c :: pieces) (c :: cs)
  | unit {n : Nat} {pieces : List Piece} {cs : List Char} (hn : n < 0xd800 ∨ 0xe000 ≤ n)
      (h : Names pieces cs) : Names (.unit n :: pieces) (Char.ofNat n :: cs)
  | pair {m n : Nat} {pieces : List Piece} {cs : List Char} (hm : m < 0x400) (hn : n < 0x400)
      (h : Names pieces cs) :
      Names (.unit (0xd800 + m) :: .unit (0xdc00 + n) :: pieces)
        (Char.ofNat (0x10000 + m * 0x400 + n) :: cs)

namespace Numeral

/-- Digits alone make an integer if it fits 64 bits with or without sign. Zero has no sign. -/
inductive MakesInteger : Numeral → Int → Prop
  | positive {ds : List Char} (h : Nat.ofDigitChars 10 ds 0 ≤ 18446744073709551615) :
      MakesInteger ⟨false, ds, none, none⟩ (Nat.ofDigitChars 10 ds 0)
  | negative {ds : List Char} (hpos : 0 < Nat.ofDigitChars 10 ds 0)
      (h : Nat.ofDigitChars 10 ds 0 ≤ 9223372036854775808) :
      MakesInteger ⟨true, ds, none, none⟩ (-Nat.ofDigitChars 10 ds 0)

/-- All that make no integer are rounded to double precision, if they are in its range. -/
inductive Makes : Numeral → Number → Prop
  | integer {numeral : Numeral} {value : Int} (h : numeral.MakesInteger value) :
      Makes numeral (.integer value)
  | real {numeral : Numeral} {magnitude : Decimal.Binary}
      (hnone : ∀ value, ¬numeral.MakesInteger value)
      (h : Number.magnitude? numeral = some magnitude) :
      Makes numeral (.real numeral.negative magnitude)

end Numeral

mutual

def Tree.StandsFor : Tree → Value → Prop
  | .null, .null => True
  | .bool written, .bool value => written = value
  | .number numeral, .number value => numeral.Makes value
  | .string pieces, .string value => Names pieces value.toList
  | .array items, .array values => ItemsStandFor items values
  | .object members, .object values => MembersStandFor members values
  | _, _ => False

def ItemsStandFor : List Tree → List Value → Prop
  | [], [] => True
  | item :: items, value :: values => item.StandsFor value ∧ ItemsStandFor items values
  | _, _ => False

def MembersStandFor : List (List Piece × Tree) → List (String × Value) → Prop
  | [], [] => True
  | (pieces, item) :: members, (key, value) :: values =>
      Names pieces key.toList ∧ item.StandsFor value ∧ MembersStandFor members values
  | _, _ => False

end

/-- The text has the structure of the tree, and the tree stands for the value. How deeply it is
nested does not matter, and members stay as they are written. -/
def Spells (text : String) (tree : Tree) (value : Value) : Prop :=
  WrittenAs tree.tokens text.toList ∧ tree.StandsFor value

end Json
end Enrolment

import Enrolment.Json.Token

/-!
The structure of JSON text: arrays and objects over tokens. The reader goes over the tokens once
and keeps the arrays and objects that are still open.
-/

namespace Enrolment
namespace Json

/-- JSON text as it is written, without the white space. -/
inductive Tree where
  | null
  | bool (value : Bool)
  | number (numeral : Numeral)
  | string (pieces : List Piece)
  | array (items : List Tree)
  | object (members : List (List Piece × Tree))
  deriving Repr, Inhabited

/-- An array or object that is still open, with its items so far, the last one first. -/
inductive Open where
  | array (items : List Tree)
  | object (members : List (List Piece × Tree)) (key : List Piece)
  deriving Repr

inductive Expect where
  | value
  | valueOrClose
  | key (members : List (List Piece × Tree))
  | keyOrClose
  | colon (members : List (List Piece × Tree)) (key : List Piece)
  /-- A value has been read. -/
  | after (value : Tree)
  deriving Repr

namespace Tree

/-- The value of a token that is a value by itself. -/
def ofToken? : Token → Option Tree
  | .null => some null
  | .bool value => some (bool value)
  | .number numeral => some (number numeral)
  | .string pieces => some (string pieces)
  | _ => none

/-- Read on from a place: what may come next, and what is open, the innermost first. -/
def build : Expect → List Open → List Token → Option Tree
  | .after value, [], [] => some value
  | .after value, .array items :: outer, .comma :: ts =>
      build .value (.array (value :: items) :: outer) ts
  | .after value, .array items :: outer, .closeBracket :: ts =>
      build (.after (array (value :: items).reverse)) outer ts
  | .after value, .object members key :: outer, .comma :: ts =>
      build (.key ((key, value) :: members)) outer ts
  | .after value, .object members key :: outer, .closeBrace :: ts =>
      build (.after (object ((key, value) :: members).reverse)) outer ts
  | .key members, outer, .string key :: ts => build (.colon members key) outer ts
  | .keyOrClose, outer, .string key :: ts => build (.colon [] key) outer ts
  | .keyOrClose, outer, .closeBrace :: ts => build (.after (object [])) outer ts
  | .colon members key, outer, .colon :: ts => build .value (.object members key :: outer) ts
  | .valueOrClose, .array [] :: outer, .closeBracket :: ts =>
      build (.after (array [])) outer ts
  | .value, outer, .openBracket :: ts => build .valueOrClose (.array [] :: outer) ts
  | .value, outer, .openBrace :: ts => build .keyOrClose outer ts
  | .value, outer, t :: ts => (ofToken? t).bind fun value => build (.after value) outer ts
  | .valueOrClose, outer, .openBracket :: ts => build .valueOrClose (.array [] :: outer) ts
  | .valueOrClose, outer, .openBrace :: ts => build .keyOrClose outer ts
  | .valueOrClose, outer, t :: ts =>
      (ofToken? t).bind fun value => build (.after value) outer ts
  | _, _, _ => none

def parse (cs : List Char) : Option Tree :=
  (Token.scan cs).bind (build .value [])

mutual

def depth : Tree → Nat
  | array items => depthOfItems items + 1
  | object members => depthOfMembers members + 1
  | _ => 0

def depthOfItems : List Tree → Nat
  | [] => 0
  | item :: items => max item.depth (depthOfItems items)

def depthOfMembers : List (List Piece × Tree) → Nat
  | [] => 0
  | (_, item) :: members => max item.depth (depthOfMembers members)

end

end Tree
end Json
end Enrolment

import Enrolment.Yaml.Token

/-!
The nodes of a YAML document. An alias stands for the node that carries its number. Numbers count
the anchor names known so far, so that a name given twice may lend its number to another; the last
node with a number is the one that is meant.
-/

namespace Enrolment
namespace Yaml

inductive Node where
  | scalar (anchor : Option Nat) (tag : Option (List Char)) (style : Style) (text : List Char)
  | sequence (anchor : Option Nat) (items : List Node)
  | mapping (anchor : Option Nat) (pairs : List (Node × Node))
  | alias (number : Nat)
  deriving Repr, Inhabited

namespace Node

/-- What is left out where a node could stand. -/
def empty : Node :=
  .scalar none none .plain []

mutual
/-- The nodes with anchors inside a node, itself included, in the order of the text. -/
def anchored : Node → List (Nat × Node)
  | .scalar anchor tag style text =>
      (anchor.map fun n => (n, .scalar anchor tag style text)).toList
  | .sequence anchor items =>
      (anchor.map fun n => (n, .sequence anchor items)).toList ++ anchoredItems items
  | .mapping anchor pairs =>
      (anchor.map fun n => (n, .mapping anchor pairs)).toList ++ anchoredPairs pairs
  | .alias _ => []

def anchoredItems : List Node → List (Nat × Node)
  | [] => []
  | node :: items => anchored node ++ anchoredItems items

def anchoredPairs : List (Node × Node) → List (Nat × Node)
  | [] => []
  | (key, value) :: pairs => anchored key ++ anchored value ++ anchoredPairs pairs
end

/-- The node that a node stands for, in a document with the given anchored nodes. An alias always
stands for a node with content of its own. -/
def resolve (known : List (Nat × Node)) : Node → Node
  | .alias number => (known.reverse.lookup number).getD empty
  | node => node

end Node
end Yaml
end Enrolment

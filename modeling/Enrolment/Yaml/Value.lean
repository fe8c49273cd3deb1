import Enrolment.Text.Digits
import Enrolment.Yaml.Node

/-!
Typed values in YAML nodes: texts, numbers, truth values and groups of fields. What is quoted is
always text; what is not is read as the type that is asked for.
-/

namespace Enrolment
namespace Yaml

abbrev Anchors := List (Nat × Node)

namespace Node

def numberIn? (base : Nat) (cs : List Char) : Option Nat := do
  guard (!cs.isEmpty)
  let n ← Text.numberIn? base cs
  guard (n < UInt64.size)
  return n

/-- A number, with a plus sign or the mark of a base in front. A decimal number has no zeros in
front. -/
def number? (cs : List Char) : Option Nat :=
  let unsigned := if cs.head? = some '+' then cs.drop 1 else cs
  let inBase : Option Nat :=
    match unsigned with
    | '0' :: 'x' :: cs => numberIn? 16 cs
    | '0' :: 'o' :: cs => numberIn? 8 cs
    | '0' :: 'b' :: cs => numberIn? 2 cs
    | _ => none
  let padded := 1 < unsigned.length && unsigned.head? = some '0'
  inBase.or (if padded then none else numberIn? 10 unsigned)

def truth? (cs : List Char) : Option Bool :=
  if ["true", "True", "TRUE"].contains (String.ofList cs) then some true
  else if ["false", "False", "FALSE"].contains (String.ofList cs) then some false
  else none

def isNull (cs : List Char) : Bool :=
  ["null", "Null", "NULL", "~"].contains (String.ofList cs)

def coreTag (name : String) : List Char :=
  ("tag:yaml.org,2002:" ++ name).toList

def text? (anchors : Anchors) (node : Node) : Option (List Char) :=
  match node.resolve anchors with
  | .scalar _ _ _ text => some text
  | _ => none

/-- A scalar that is not quoted: a plain one, or a literal block with the tag of the type. -/
def bare? (anchors : Anchors) (type : String) (node : Node) : Option (List Char) :=
  match node.resolve anchors with
  | .scalar _ _ .plain text => some text
  | .scalar _ (some tag) .literal text => if tag = coreTag type then some text else none
  | _ => none

def optionalText? (anchors : Anchors) (node : Node) : Option (Option String) :=
  match node.resolve anchors with
  | .scalar _ none .plain text =>
      some (if text.isEmpty || isNull text then none else some (String.ofList text))
  | .scalar _ (some tag) .plain text =>
      if tag = coreTag "null" then
        if isNull text then some none else none
      else
        some (some (String.ofList text))
  | .scalar _ _ _ text => some (some (String.ofList text))
  | _ => none

/-- The pairs whose keys are among the names. A name may not come twice; all keys are scalars. -/
def pairsNamed? (anchors : Anchors) (names : List String) :
    List (Node × Node) → Option (List (String × Node))
  | [] => some []
  | (key, value) :: pairs => do
      let name := String.ofList (← text? anchors key)
      let rest ← pairsNamed? anchors names pairs
      if names.contains name then
        guard ((rest.lookup name).isNone)
        return (name, value) :: rest
      else
        return rest

/-- The fields of a group, given by name or in order. A plain scalar that is empty has none. -/
def fields? (anchors : Anchors) (names : List String) (node : Node) :
    Option (List (String × Node)) :=
  match node.resolve anchors with
  | .mapping _ pairs => pairsNamed? anchors names pairs
  | .sequence _ items => if items.length ≤ names.length then some (names.zip items) else none
  | .scalar _ _ .plain [] => some []
  | _ => none

def field? (fields : List (String × Node)) (name : String) (standard : α)
    (read : Node → Option α) : Option α :=
  match fields.lookup name with
  | some node => read node
  | none => some standard

end Node
end Yaml
end Enrolment

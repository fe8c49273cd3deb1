import Enrolment.Yaml.Layout
import Enrolment.Yaml.Node

/-!
The one document of a YAML text, put together from its tokens. A text with more than one document,
with an alias for nothing or with a tag handle that nobody introduced is not accepted.
-/

namespace Enrolment
namespace Yaml

/-- What is left to read, and what is known from the part that is read. -/
structure Remains where
  tokens : List Token
  /-- The anchor names so far, with their numbers, the latest first. -/
  names : List (List Char × Nat) := []
  deriving Repr

abbrev Reader := StateT Remains Option

/-- What a node may have in front. -/
structure Properties where
  anchor : Option (List Char) := none
  tag : Option (List Char) := none

namespace Reader

def peek? : Reader (Option Token) := do
  return (← get).tokens.head?

def drop : Reader Unit :=
  modify fun remains => { remains with tokens := remains.tokens.drop 1 }

def accept (token : Token) : Reader Bool := do
  if (← peek?) = some token then
    drop
    return true
  else
    return false

def expect (token : Token) : Reader Unit := do
  guard (← accept token)

def isNext (tokens : List Token) : Reader Bool := do
  return (← peek?).any tokens.contains

/-- The number of a new anchor. -/
def number (name : List Char) : Reader Nat := do
  let remains ← get
  let n := (remains.names.map (·.1)).eraseDups.length
  set { remains with names := (name, n) :: remains.names }
  return n

def known (name : List Char) : Reader Nat := do
  match (← get).names.lookup name with
  | some n => return n
  | none => failure

end Reader

/-- The handles of a document, and what they stand for. -/
abbrev Handles := List (List Char × List Char)

open Reader

def fullTag (handles : Handles) (handle suffix : List Char) : Option (List Char) :=
  if handle = [] then some suffix else (handles.lookup handle).map (· ++ suffix)

def anchorOnly : Reader (Option (List Char)) := do
  match ← peek? with
  | some (.anchor name) =>
      drop
      return some name
  | _ => return none

def tagOnly (handles : Handles) : Reader (Option (List Char)) := do
  match ← peek? with
  | some (.tag handle suffix) =>
      drop
      match fullTag handles handle suffix with
      | some tag => return some tag
      | none => failure
  | _ => return none

def properties (handles : Handles) : Reader Properties := do
  match ← anchorOnly with
  | some name => return ⟨some name, ← tagOnly handles⟩
  | none =>
      match ← tagOnly handles with
      | some tag => return ⟨← anchorOnly, some tag⟩
      | none => return {}

/-- A node that is left out where one of the given tokens follows. -/
def leftOutBefore (ends : List Token) (node : Reader Node) : Reader Node := do
  if ← isNext ends then return .empty else node

mutual
/-- A node. In flow collections no block may stand; the items of a sequence need no indentation of
their own behind a key. The fuel is more than all nodes inside take. -/
def node (handles : Handles) (inBlock unindented : Bool) : Nat → Reader Node
  | 0 => failure
  | fuel + 1 => do
      match ← peek? with
      | some (.alias name) =>
          drop
          return .alias (← known name)
      | _ =>
          let found ← properties handles
          let next ← peek?
          let bare := found.anchor.isNone && found.tag.isNone
          let opens := match next with
            | some (.scalar _ _) | some .flowSequenceStart | some .flowMappingStart => true
            | some .blockSequenceStart | some .blockMappingStart => inBlock
            | some .blockEntry => unindented
            | _ => false
          guard (opens || !bare)
          let anchor ← match found.anchor with
            | some name => some <$> number name
            | none => pure none
          if !opens then
            return .scalar anchor found.tag .plain []
          match next with
          | some (.scalar style text) =>
              drop
              return .scalar anchor found.tag style text
          | some .flowSequenceStart =>
              drop
              return .sequence anchor (← flowItems handles true fuel)
          | some .flowMappingStart =>
              drop
              return .mapping anchor (← flowPairs handles true fuel)
          | some .blockSequenceStart =>
              drop
              return .sequence anchor (← blockItems handles fuel)
          | some .blockMappingStart =>
              drop
              return .mapping anchor (← blockPairs handles fuel)
          | _ => return .sequence anchor (← unindentedItems handles fuel)

/-- The items of a block, up to its end. -/
def blockItems (handles : Handles) : Nat → Reader (List Node)
  | 0 => failure
  | fuel + 1 => do
      if ← accept .blockEntry then
        let item ← leftOutBefore [.blockEntry, .blockEnd] (node handles true false fuel)
        return item :: (← blockItems handles fuel)
      else
        expect .blockEnd
        return []

/-- Items that stand where the keys around them stand, up to the next key. -/
def unindentedItems (handles : Handles) : Nat → Reader (List Node)
  | 0 => failure
  | fuel + 1 => do
      if ← accept .blockEntry then
        let ends := [Token.blockEntry, .key, .value, .blockEnd]
        let item ← leftOutBefore ends (node handles true false fuel)
        return item :: (← unindentedItems handles fuel)
      else
        return []

/-- The pairs of a block, up to its end. A value may be left out, its key may not. -/
def blockPairs (handles : Handles) : Nat → Reader (List (Node × Node))
  | 0 => failure
  | fuel + 1 => do
      if ← accept .key then
        let ends := [Token.key, .value, .blockEnd]
        let key ← leftOutBefore ends (node handles true true fuel)
        let value ←
          if ← accept .value then leftOutBefore ends (node handles true true fuel)
          else pure .empty
        return (key, value) :: (← blockPairs handles fuel)
      else
        expect .blockEnd
        return []

/-- The items of a flow sequence, up to its bracket. A pair alone is a mapping of its own. -/
def flowItems (handles : Handles) (first : Bool) : Nat → Reader (List Node)
  | 0 => failure
  | fuel + 1 => do
      if ← accept .flowSequenceEnd then
        return []
      if !first then
        expect .flowEntry
      if ← accept .flowSequenceEnd then
        return []
      let item ←
        if ← accept .key then
          pure (Node.mapping none [← soloPair handles fuel])
        else
          node handles false false fuel
      return item :: (← flowItems handles false fuel)

/-- The pair behind a key mark in a flow sequence. The mark that ends an empty key is skipped. -/
def soloPair (handles : Handles) : Nat → Reader (Node × Node)
  | 0 => failure
  | fuel + 1 => do
      let ends := [Token.flowEntry, .flowSequenceEnd]
      let key ←
        if ← isNext (.value :: ends) then do
          drop
          pure Node.empty
        else
          node handles false false fuel
      let value ←
        if ← accept .value then leftOutBefore ends (node handles false false fuel)
        else pure .empty
      return (key, value)

/-- The pairs of a flow mapping, up to its brace. -/
def flowPairs (handles : Handles) (first : Bool) : Nat → Reader (List (Node × Node))
  | 0 => failure
  | fuel + 1 => do
      if ← accept .flowMappingEnd then
        return []
      if !first then
        expect .flowEntry
      if ← accept .flowMappingEnd then
        return []
      let ends := [Token.flowEntry, .flowMappingEnd]
      let pair ←
        if ← accept .key then do
          let key ← leftOutBefore (.value :: ends) (node handles false false fuel)
          let value ←
            if ← accept .value then leftOutBefore ends (node handles false false fuel)
            else pure .empty
          pure (key, value)
        else do
          pure (← node handles false false fuel, Node.empty)
      return pair :: (← flowPairs handles false fuel)
end

/-- The handles that every document knows. -/
def standardHandles : Handles :=
  [("!".toList, "!".toList), ("!!".toList, "tag:yaml.org,2002:".toList)]

/-- The directives in front of a document: one version at most, and no handle twice. -/
def directives (versioned : Bool) (handles : Handles) : List Token → Option (Handles × List Token)
  | .versionDirective major minor :: tokens => do
      guard (!versioned && major = 1 && (minor = 1 || minor = 2))
      directives true handles tokens
  | .tagDirective handle start :: tokens => do
      guard (handles.lookup handle).isNone
      directives versioned ((handle, start) :: handles) tokens
  | tokens => some (handles, tokens)

/-- The content of a document whose start is read. -/
def root (handles : Handles) (marked : Bool) (tokens : List Token) :
    Option (Node × List Token) :=
  let ends := match tokens with
    | [] | .documentStart :: _ | .documentEnd :: _ => true
    | .versionDirective _ _ :: _ | .tagDirective _ _ :: _ => true
    | _ => false
  if marked && ends then
    some (.empty, tokens)
  else do
    let (content, remains) ← (node handles true false (4 * tokens.length + 8)).run ⟨tokens, []⟩
    return (content, remains.tokens)

def ofTokens? (tokens : List Token) : Option (Option Node) := do
  if tokens = [] then
    return none
  let (given, rest) ← directives false [] tokens
  let handles := given ++ standardHandles
  let (content, rest) ←
    match rest with
    | .documentStart :: rest => root handles true rest
    | rest => do
        guard (given = [] && rest.length = tokens.length)
        root handles false rest
  guard (rest.all fun token => token = .documentEnd)
  return some content

/-- The document of a text. Nothing means that the text cannot be read; an empty text has none. -/
def document? (text : String) : Option (Option Node) := do
  ofTokens? (← tokens? text)

end Yaml
end Enrolment

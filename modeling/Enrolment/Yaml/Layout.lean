import Enrolment.Yaml.Scalar

/-!
The tokens of a whole YAML text. What stands in front of a colon is a key only in hindsight, so the
places where a key may start are remembered, and its token is put in when the colon comes.
-/

namespace Enrolment
namespace Yaml

/-- A place where a key may have started. It cannot be one any more behind the end of its line or
behind 1024 characters; a key that has to be one is then missing its colon. -/
structure KeyStart where
  required : Bool
  position : Nat
  cursor : Cursor
  deriving Repr

/-- A text that is read up to some place. -/
structure Layout where
  cursor : Cursor
  tokens : Array Token := #[]
  /-- The column of the innermost block, or -1 outside of all. -/
  indent : Int := -1
  outer : List Int := []
  keyAllowed : Bool := true
  /-- Where a key may have started, in each flow collection from the innermost one on, and last
  outside of all. -/
  starts : List (Option KeyStart) := [none]
  deriving Repr

namespace Layout

def inFlow (layout : Layout) : Bool :=
  1 < layout.starts.length

def push (layout : Layout) (token : Token) : Layout :=
  { layout with tokens := layout.tokens.push token }

def insert (layout : Layout) (position : Nat) (token : Token) : Layout :=
  { layout with
    tokens := layout.tokens.extract 0 position ++ #[token] ++ layout.tokens.extract position }

def moveTo (layout : Layout) (cursor : Cursor) : Layout :=
  { layout with cursor := cursor }

def allowKey (layout : Layout) (allowed : Bool) : Layout :=
  { layout with keyAllowed := allowed }

def KeyStart.isStale (start : KeyStart) (cursor : Cursor) : Bool :=
  start.cursor.line < cursor.line || start.cursor.index + 1024 < cursor.index

def dropStale (layout : Layout) : Option Layout :=
  let stale (start : KeyStart) : Bool := KeyStart.isStale start layout.cursor
  if layout.starts.any fun start => start.any fun s => s.required && stale s then
    none
  else
    some { layout with starts := layout.starts.map (·.filter (!stale ·)) }

/-- No key has started in the innermost collection. -/
def dropStart (layout : Layout) : Option Layout :=
  match layout.starts with
  | some start :: rest =>
      if start.required then none else some { layout with starts := none :: rest }
  | _ => some layout

def markStart (layout : Layout) : Option Layout :=
  if layout.keyAllowed then do
    let layout ← layout.dropStart
    let start : KeyStart :=
      { required := !layout.inFlow && layout.indent = layout.cursor.column,
        position := layout.tokens.size, cursor := layout.cursor }
    return { layout with starts := some start :: layout.starts.drop 1 }
  else
    some layout

def indentTo (layout : Layout) (column position : Nat) (token : Token) : Layout :=
  if !layout.inFlow && layout.indent < column then
    { layout.insert position token with
      indent := column, outer := layout.indent :: layout.outer }
  else
    layout

def closeBlocks (column indent : Int) (tokens : Array Token) :
    List Int → Array Token × Int × List Int
  | [] => (tokens, indent, [])
  | next :: outer =>
      if column < indent then
        closeBlocks column next (tokens.push .blockEnd) outer
      else
        (tokens, indent, next :: outer)

def dedentTo (layout : Layout) (column : Int) : Layout :=
  if layout.inFlow then
    layout
  else
    let (tokens, indent, outer) :=
      closeBlocks column layout.indent layout.tokens layout.outer
    { layout with tokens := tokens, indent := indent, outer := outer }

/-- Skip blanks, comments and line breaks. A tab is no blank where a key might start: it would stand
in for indentation. The fuel is more than the text has lines. -/
def skipGap : Nat → Layout → Layout
  | 0, layout => layout
  | fuel + 1, layout =>
      let cur := layout.cursor
      let cur := if cur.index = 0 && cur.isAt 0 '\ufeff' then cur.skip else cur
      let tabs := layout.inFlow || !layout.keyAllowed
      let cur := (cur.takeWhile fun c => c = ' ' || (tabs && c = '\t')).2
      let cur := if cur.isAt 0 '#' then (cur.takeWhile fun c => !isBreak c).2 else cur
      match cur.lineBreak? with
      | some (_, next) =>
          skipGap fuel (layout.moveTo next |>.allowKey (!layout.inFlow || layout.keyAllowed))
      | none => layout.moveTo cur

/-- Letters, digits, `-` and `_`. -/
def isWordChar (c : Char) : Bool :=
  c.isAlphanum || c = '-' || c = '_'

def number? (cur : Cursor) : Option (Nat × Cursor) :=
  let (digits, next) := cur.takeWhile Char.isDigit
  if digits.isEmpty || 9 < digits.length then
    none
  else
    some (digits.foldl (fun n d => 10 * n + (d.toNat - '0'.toNat)) 0, next)

/-- The characters of tags; commas and brackets only between angle brackets. -/
def isTagChar (verbatim : Bool) (c : Char) : Bool :=
  isWordChar c || ";/?:@&=+$.%!~*'()".toList.contains c ||
    (verbatim && (c = ',' || c = '[' || c = ']'))

/-- The bytes that a row of `%` and two digits each stands for, and the rest. -/
def percentBytes : List Char → Option (List UInt8 × List Char)
  | '%' :: a :: b :: cs => do
      let high ← Text.hexDigit? a
      let low ← Text.hexDigit? b
      let (bytes, rest) ← percentBytes cs
      return (UInt8.ofNat (16 * high + low) :: bytes, rest)
  | '%' :: _ => none
  | cs => some ([], cs)

/-- A tag with its percent escapes read, which have to make characters. -/
def unescapeTag : Nat → List Char → Option (List Char)
  | 0, _ => none
  | fuel + 1, cs =>
      match cs with
      | [] => some []
      | '%' :: _ => do
          let (bytes, rest) ← percentBytes cs
          let text ← String.fromUTF8? ⟨bytes.toArray⟩
          let more ← unescapeTag fuel rest
          return text.toList ++ more
      | c :: cs => (unescapeTag fuel cs).map (c :: ·)

def tagText? (verbatim : Bool) (cur : Cursor) : Option (List Char × Cursor) := do
  let (raw, next) := cur.takeWhile (isTagChar verbatim)
  let text ← unescapeTag (raw.length + 1) raw
  return (text, next)

/-- A tag handle at the cursor: an exclamation mark, a word, and another mark if it is there. -/
def tagHandle? (cur : Cursor) : Option (List Char × Cursor) :=
  if cur.isAt 0 '!' then
    let (word, next) := cur.skip.takeWhile isWordChar
    if next.isAt 0 '!' then
      some ('!' :: (word ++ ['!']), next.skip)
    else
      some ('!' :: word, next)
  else
    none

/-- A directive at the cursor, which stands on its percent sign. -/
def directive? (cur : Cursor) : Option (Token × Cursor) := do
  let (name, cur) := cur.skip.takeWhile isWordChar
  guard (cur.isBlankAt 0)
  let cur := (cur.takeWhile isBlank).2
  let (token, cur) ←
    if name = "YAML".toList then do
      let (major, cur) ← number? cur
      guard (cur.isAt 0 '.')
      let (minor, cur) ← number? cur.skip
      pure (Token.versionDirective major minor, cur)
    else if name = "TAG".toList then do
      let (handle, cur) ← tagHandle? cur
      guard (handle = ['!'] || handle.getLast? = some '!')
      guard ((cur.peek? 0).any isBlank)
      let (start, cur) ← tagText? true (cur.takeWhile isBlank).2
      guard (!start.isEmpty && cur.isBlankAt 0)
      pure (Token.tagDirective handle start, cur)
    else
      none
  let cur ← restOfLine? cur
  return (token, cur)

def anchorName? (cur : Cursor) : Option (List Char × Cursor) := do
  let (name, cur) := cur.skip.takeWhile isWordChar
  guard (!name.isEmpty)
  guard (cur.isBlankAt 0 || (cur.peek? 0).any fun c => "?:,]\x7d%@\x60".toList.contains c)
  return (name, cur)

def tag? (inFlow : Bool) (cur : Cursor) : Option (Token × Cursor) := do
  let (token, cur) ←
    if cur.isAt 1 '<' then do
      let (text, cur) ← tagText? true (cur.skipMany 2)
      guard (!text.isEmpty && cur.isAt 0 '>')
      pure (Token.tag [] text, cur.skip)
    else do
      let (handle, next) ← tagHandle? cur
      if 1 < handle.length && handle.getLast? = some '!' then
        let (text, cur) ← tagText? false next
        guard (!text.isEmpty)
        pure (Token.tag handle text, cur)
      else
        let (text, cur) ← tagText? false next
        let text := handle.drop 1 ++ text
        pure (if text.isEmpty then Token.tag [] ['!'] else Token.tag ['!'] text, cur)
  guard (cur.isBlankAt 0 || (inFlow && cur.isAt 0 ','))
  return (token, cur)

def startsPlain (inFlow : Bool) (cur : Cursor) : Bool :=
  match cur.peek? 0 with
  | none => false
  | some c =>
      if c = '-' then !(cur.peek? 1).any isBlank && (cur.peek? 1).isSome
      else if c = '?' || c = ':' then !inFlow && !cur.isBlankAt 1
      else !isBlank c && !isBreak c && !",[]\x7b\x7d#&*!|>'\"%@\x60".toList.contains c

/-- A mark that closes or parts flow collections: no key starts here, and one may start behind. -/
def flowMark (layout : Layout) (token : Token) (allowed : Bool) : Option Layout := do
  let layout ← layout.dropStart
  return (layout.allowKey allowed |>.push token).moveTo layout.cursor.skip

def openFlow (layout : Layout) (token : Token) : Option Layout := do
  let layout ← layout.markStart
  let layout := { layout with starts := none :: layout.starts }
  return (layout.allowKey true |>.push token).moveTo layout.cursor.skip

def closeFlow (layout : Layout) (token : Token) : Option Layout := do
  let layout ← layout.dropStart
  let layout :=
    if layout.inFlow then { layout with starts := layout.starts.drop 1 } else layout
  return (layout.allowKey false |>.push token).moveTo layout.cursor.skip

def blockItem (layout : Layout) : Option Layout := do
  guard (layout.inFlow || layout.keyAllowed)
  let layout :=
    layout.indentTo layout.cursor.column layout.tokens.size .blockSequenceStart
  layout.flowMark .blockEntry true

def explicitKey (layout : Layout) : Option Layout := do
  guard (layout.inFlow || layout.keyAllowed)
  let layout :=
    layout.indentTo layout.cursor.column layout.tokens.size .blockMappingStart
  layout.flowMark .key (!layout.inFlow)

/-- A colon: what may have started a key did, or the key was given by a question mark or is left
out. -/
def colon (layout : Layout) : Option Layout :=
  match layout.starts with
  | some start :: rest =>
      let layout := layout.insert start.position .key
      let layout := layout.indentTo start.cursor.column start.position .blockMappingStart
      let layout := { layout with starts := none :: rest }
      some ((layout.allowKey false |>.push .value).moveTo layout.cursor.skip)
  | _ => do
      guard (layout.inFlow || layout.keyAllowed)
      let layout :=
        layout.indentTo layout.cursor.column layout.tokens.size .blockMappingStart
      return (layout.allowKey (!layout.inFlow) |>.push .value).moveTo layout.cursor.skip

/-- Something that may itself be a key: an alias, a property or a scalar. -/
def content (layout : Layout) (read : Cursor → Option (Token × Cursor)) : Option Layout := do
  let layout ← layout.markStart
  let (token, cursor) ← read layout.cursor
  return (layout.allowKey false |>.push token).moveTo cursor

def block (layout : Layout) (folded : Bool) : Option Layout := do
  let layout ← layout.dropStart
  let (text, cursor) ← blockScalar folded layout.indent layout.cursor
  let style := if folded then Style.folded else .literal
  return (layout.allowKey true |>.push (.scalar style text)).moveTo cursor

/-- A plain scalar. A key may start behind it if it took line breaks along. -/
def plain (layout : Layout) : Option Layout := do
  let layout ← layout.markStart
  let (text, broken, cursor) ←
    plainScalar layout.inFlow (layout.indent + 1).toNat layout.cursor
  return (layout.allowKey broken |>.push (.scalar .plain text)).moveTo cursor

def boundary (layout : Layout) (read : Cursor → Option (Token × Cursor)) : Option Layout := do
  let layout ← (layout.dedentTo (-1)).dropStart
  let (token, cursor) ← read layout.cursor
  return (layout.allowKey false |>.push token).moveTo cursor

/-- The token at the cursor, which is not at the end of the text. -/
def token (layout : Layout) (c : Char) : Option Layout :=
  let cur := layout.cursor
  let named (make : List Char → Token) (cur : Cursor) : Option (Token × Cursor) :=
    (anchorName? cur).map fun (name, next) => (make name, next)
  let quoted (double : Bool) (cur : Cursor) : Option (Token × Cursor) :=
    (quotedScalar double cur).map fun (text, next) => (.scalar .quoted text, next)
  if cur.column = 0 && c = '%' then layout.boundary directive?
  else if cur.isMarker '-' then layout.boundary fun cur => some (.documentStart, cur.skipMany 3)
  else if cur.isMarker '.' then layout.boundary fun cur => some (.documentEnd, cur.skipMany 3)
  else if c = '[' then layout.openFlow .flowSequenceStart
  else if c = '\x7b' then layout.openFlow .flowMappingStart
  else if c = ']' then layout.closeFlow .flowSequenceEnd
  else if c = '\x7d' then layout.closeFlow .flowMappingEnd
  else if c = ',' then layout.flowMark .flowEntry true
  else if c = '-' && cur.isBlankAt 1 then layout.blockItem
  else if c = '?' && (layout.inFlow || cur.isBlankAt 1) then layout.explicitKey
  else if c = ':' && (layout.inFlow || cur.isBlankAt 1) then layout.colon
  else if c = '*' then layout.content (named .alias)
  else if c = '&' then layout.content (named .anchor)
  else if c = '!' then layout.content (tag? layout.inFlow)
  else if c = '|' && !layout.inFlow then layout.block false
  else if c = '>' && !layout.inFlow then layout.block true
  else if c = '\'' then layout.content (quoted false)
  else if c = '"' then layout.content (quoted true)
  else if startsPlain layout.inFlow cur then layout.plain
  else none

/-- Read tokens up to the end of the text. Each takes a character at least, so that fuel beyond
the length of the text is enough. -/
def readAll : Nat → Layout → Option (List Token)
  | 0, _ => none
  | fuel + 1, layout => do
      let layout := layout.skipGap (layout.cursor.rest.length + 1)
      let layout ← layout.dropStale
      let layout := layout.dedentTo layout.cursor.column
      match layout.cursor.peek? 0 with
      | none => do
          let layout ← (layout.dedentTo (-1)).dropStart
          return layout.tokens.toList
      | some c => do
          let layout ← layout.token c
          readAll fuel layout

end Layout

def tokens? (text : String) : Option (List Token) :=
  let cs := text.toList
  if cs.all isReadable then
    Layout.readAll (cs.length + 1) { cursor := .start cs }
  else
    none

end Yaml
end Enrolment

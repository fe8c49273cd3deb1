import Enrolment.Text.Digits
import Enrolment.Yaml.Cursor
import Enrolment.Yaml.Token

/-!
Scalars of YAML text: plain ones, quoted ones and blocks. A single line break inside a plain or
quoted scalar reads as a space, further ones as line feeds; blanks around breaks are dropped.
-/

namespace Enrolment
namespace Yaml

structure Gap where
  blanks : List Char := []
  first : List Char := []
  further : List Char := []
  broken : Bool := false

def Gap.fold (gap : Gap) : List Char :=
  if gap.broken then
    if gap.first = ['\n'] then
      if gap.further = [] then [' '] else gap.further
    else
      gap.first ++ gap.further
  else
    gap.blanks

/-- Read blanks and breaks on. Blanks behind a break are dropped. In a plain scalar a tab there must
not stand in for indentation; `indent` is the column from which tabs are allowed. -/
def gapFrom (indent : Nat) (gap : Gap) (cur : Cursor) : Option (Gap × Cursor) :=
  match _hpeek : cur.peek? 0 with
  | none => some (gap, cur)
  | some c =>
      if isBlank c then
        if gap.broken then
          if cur.column < indent && c = '\t' then none else gapFrom indent gap cur.skip
        else
          gapFrom indent { gap with blanks := gap.blanks ++ [c] } cur.skip
      else
        match _hbreak : cur.lineBreak? with
        | none => some (gap, cur)
        | some (b, next) =>
            if gap.broken then
              gapFrom indent { gap with further := gap.further ++ [b] } next
            else
              gapFrom indent { gap with blanks := [], first := [b], broken := true } next
  termination_by cur.rest.length
  decreasing_by
    · exact Cursor.length_skip _hpeek
    · exact Cursor.length_skip _hpeek
    · exact Cursor.length_lineBreak _hbreak
    · exact Cursor.length_lineBreak _hbreak

def isFlowIndicator (c : Char) : Bool :=
  c = ',' || c = '[' || c = ']' || c = '\x7b' || c = '\x7d'

/-- Whether a plain scalar goes on at the cursor; nothing if a colon stands where none may. -/
def plainGoesOn? (flow : Bool) (cur : Cursor) : Option Bool :=
  match cur.peek? 0 with
  | none => some false
  | some c =>
      if flow && c = ':' &&
          (cur.peek? 1).any (fun d => isFlowIndicator d || d = '?') then
        none
      else
        some (!(c = ':' && cur.isBlankAt 1) && !(flow && isFlowIndicator c))

/-- The words of a plain scalar, from the cursor on: the text, whether a line was ended behind it,
and the rest. In block context the scalar ends at a line that is not indented enough. -/
def plainFrom (flow : Bool) (indent : Nat) (gap : Gap) (cur : Cursor) :
    Option (List Char × Bool × Cursor) :=
  match _hpeek : cur.peek? 0 with
  | none => some ([], gap.broken, cur)
  | some c =>
      if isBlank c || isBreak c then
        match _hgap : gapFrom indent {} cur with
        | none => none
        | some (gap, next) =>
            if _hless : next.rest.length < cur.rest.length then
              if (!flow && next.column < indent) || next.isMarker '-' || next.isMarker '.' ||
                  next.isAt 0 '#' then
                some ([], gap.broken, next)
              else
                plainFrom flow indent gap next
            else
              none
      else
        match plainGoesOn? flow cur with
        | none => none
        | some false => some ([], gap.broken, cur)
        | some true => do
            let (text, broken, next) ← plainFrom flow indent {} cur.skip
            return (gap.fold ++ c :: text, broken, next)
  termination_by cur.rest.length
  decreasing_by
    · exact _hless
    · exact Cursor.length_skip _hpeek

def plainScalar (flow : Bool) (indent : Nat) (cur : Cursor) :
    Option (List Char × Bool × Cursor) :=
  plainFrom flow indent {} cur

/-- What a letter behind a backslash stands for: a character, or so many digits of one. -/
def escape? : Char → Option (Char ⊕ Nat)
  | '0' => some (.inl '\x00')
  | 'a' => some (.inl '\x07')
  | 'b' => some (.inl '\x08')
  | 't' => some (.inl '\t')
  | '\t' => some (.inl '\t')
  | 'n' => some (.inl '\n')
  | 'v' => some (.inl '\x0b')
  | 'f' => some (.inl '\x0c')
  | 'r' => some (.inl '\r')
  | 'e' => some (.inl '\x1b')
  | ' ' => some (.inl ' ')
  | '"' => some (.inl '"')
  | '/' => some (.inl '/')
  | '\\' => some (.inl '\\')
  | 'N' => some (.inl '\u0085')
  | '_' => some (.inl '\u00a0')
  | 'L' => some (.inl '\u2028')
  | 'P' => some (.inl '\u2029')
  | 'x' => some (.inr 2)
  | 'u' => some (.inr 4)
  | 'U' => some (.inr 8)
  | _ => none

def charOf? (n : Nat) : Option Char :=
  if n.isValidChar then some (Char.ofNat n) else none

def charIn? (digits : Nat) (written : List Char) : Option Char :=
  if written.length = digits then (Text.numberIn? 16 written).bind charOf? else none

def escaped? (cur : Cursor) : Option (Char × Cursor) := do
  let letter ← cur.peek? 1
  let meaning ← escape? letter
  match meaning with
  | .inl c => return (c, cur.skipMany 2)
  | .inr digits => do
      let c ← charIn? digits ((cur.rest.drop 2).take digits)
      return (c, cur.skipMany (2 + digits))

/-- One character of a quoted scalar, in which only a double quote allows escapes. -/
def quotedChar? (double : Bool) (c : Char) (cur : Cursor) : Option (Char × Cursor) :=
  if !double && c = '\'' then
    some ('\'', cur.skipMany 2)
  else if double && c = '\\' then
    escaped? cur
  else
    some (c, cur.skip)

theorem length_quotedChar {double : Bool} {c d : Char} {cur next : Cursor}
    (hpeek : cur.peek? 0 = some c) (h : quotedChar? double c cur = some (d, next)) :
    next.rest.length < cur.rest.length := by
  have h1 := Cursor.length_skip hpeek
  have hmany : ∀ n, (cur.skipMany (n + 1)).rest.length < cur.rest.length := fun n =>
    Nat.lt_of_le_of_lt (Cursor.length_skipMany_le cur.skip n) h1
  unfold quotedChar? at h
  split at h
  · simp only [Option.some.injEq, Prod.mk.injEq] at h
    rw [← h.2]
    exact hmany 1
  · split at h
    · simp only [escaped?, Option.bind_eq_bind, Option.bind_eq_some_iff] at h
      obtain ⟨letter, _, meaning, _, h⟩ := h
      split at h
      · simp only [Option.pure_def, Option.some.injEq, Prod.mk.injEq] at h
        rw [← h.2]
        exact hmany 1
      · next _ digits _ =>
          simp only [Option.bind_eq_some_iff, Option.pure_def, Option.some.injEq,
            Prod.mk.injEq] at h
          obtain ⟨_, _, _, h⟩ := h
          rw [← h]
          have := hmany (1 + digits)
          rwa [show 1 + digits + 1 = 2 + digits by omega] at this
    · simp only [Option.some.injEq, Prod.mk.injEq] at h
      rw [← h.2]
      exact h1

def quotedFrom (double : Bool) (cur : Cursor) : Option (List Char × Cursor) :=
  if cur.isMarker '-' || cur.isMarker '.' then
    none
  else
    match _hpeek : cur.peek? 0 with
    | none => none
    | some c =>
        if isBlank c || isBreak c then
          match gapFrom 0 {} cur with
          | none => none
          | some (gap, next) =>
              if _hless : next.rest.length < cur.rest.length then do
                let (text, rest) ← quotedFrom double next
                return (gap.fold ++ text, rest)
              else
                none
        else if c = (if double then '"' else '\'') && !(!double && cur.isAt 1 '\'') then
          some ([], cur.skip)
        else if double && c = '\\' && cur.isBreakAt 1 then
          match _hbreak : cur.skip.lineBreak? with
          | none => none
          | some (_, next) =>
              match gapFrom 0 { broken := true } next with
              | none => none
              | some (gap, after) =>
                  if _hless : after.rest.length < cur.rest.length then do
                    let (text, rest) ← quotedFrom double after
                    return (gap.first ++ gap.further ++ text, rest)
                  else
                    none
        else
          match _hchar : quotedChar? double c cur with
          | none => none
          | some (d, next) => do
              let (text, rest) ← quotedFrom double next
              return (d :: text, rest)
  termination_by cur.rest.length
  decreasing_by
    · exact _hless
    · exact _hless
    · exact length_quotedChar _hpeek _hchar

def quotedScalar (double : Bool) (cur : Cursor) : Option (List Char × Cursor) :=
  quotedFrom double cur.skip

inductive Chomp where
  | strip
  | clip
  | keep
  deriving DecidableEq, Repr

/-- The header of a block: what becomes of its last breaks, and its indentation if it is given. -/
def blockHeader? (cur : Cursor) : Option (Chomp × Option Nat × Cursor) :=
  let chomp? (c : Char) : Option Chomp :=
    if c = '+' then some .keep else if c = '-' then some .strip else none
  let digit? (cur : Cursor) : Option (Option Nat × Cursor) :=
    match cur.peek? 0 with
    | some c =>
        if c = '0' then none
        else if c.isDigit then some (some (c.toNat - '0'.toNat), cur.skip)
        else some (none, cur)
    | none => some (none, cur)
  match (cur.peek? 0).bind chomp? with
  | some chomp => (digit? cur.skip).map fun (indent, next) => (chomp, indent, next)
  | none => do
      let (indent, next) ← digit? cur
      match indent, (next.peek? 0).bind chomp? with
      | some n, some chomp => return (chomp, some n, next.skip)
      | indent, _ => return (.clip, indent, next)

def restOfLine? (cur : Cursor) : Option Cursor :=
  let cur := (cur.takeWhile isBlank).2
  let cur := if cur.isAt 0 '#' then (cur.takeWhile fun c => !isBreak c).2 else cur
  match cur.peek? 0 with
  | none => some cur
  | some _ => cur.lineBreak?.map (·.2)

/-- Skip indentation and empty lines of a block: the breaks, the widest indentation seen and the
start of a line with text. While the indentation is not known all spaces are taken. -/
def blockBreaks (indent : Option Nat) (widest : Nat) (cur : Cursor) :
    Option (List Char × Nat × Cursor) :=
  match _hpeek : cur.peek? 0 with
  | none => some ([], max widest cur.column, cur)
  | some c =>
      let before := indent.all (cur.column < ·)
      if before && c = ' ' then
        blockBreaks indent widest cur.skip
      else if before && c = '\t' then
        none
      else
        match _hbreak : cur.lineBreak? with
        | none => some ([], max widest cur.column, cur)
        | some (b, next) => do
            let (breaks, widest, rest) ← blockBreaks indent (max widest cur.column) next
            return (b :: breaks, widest, rest)
  termination_by cur.rest.length
  decreasing_by
    · exact Cursor.length_skip _hpeek
    · exact Cursor.length_lineBreak _hbreak

/-- What is read of a block so far, but not yet part of its text. -/
structure BlockGap where
  leading : List Char
  trailing : List Char
  /-- Whether the last line started with a blank. -/
  blank : Bool

/-- The lines of a block whose indentation is known. The fuel is more than the text has lines. -/
def blockLines (folded : Bool) (indent : Nat) (chomp : Chomp) :
    Nat → BlockGap → Cursor → Option (List Char × Cursor)
  | 0, _, _ => none
  | fuel + 1, gap, cur =>
      if cur.column = indent && (cur.peek? 0).isSome then do
        let blank := (cur.peek? 0).any isBlank
        let joined :=
          if folded && gap.leading = ['\n'] && !gap.blank && !blank then
            if gap.trailing = [] then [' '] else gap.trailing
          else
            gap.leading ++ gap.trailing
        let (line, cur) := cur.takeWhile fun c => !isBreak c
        let (leading, cur) :=
          match cur.lineBreak? with
          | some (b, next) => ([b], next)
          | none => ([], cur)
        let (trailing, _, cur) ← blockBreaks (some indent) 0 cur
        let (text, rest) ← blockLines folded indent chomp fuel ⟨leading, trailing, blank⟩ cur
        return (joined ++ line ++ text, rest)
      else
        let tail :=
          match chomp with
          | .strip => []
          | .clip => gap.leading
          | .keep => gap.leading ++ gap.trailing
        some (tail, cur)

/-- A block that starts at the cursor, inside a block of a given indentation. -/
def blockScalar (folded : Bool) (outer : Int) (cur : Cursor) : Option (List Char × Cursor) := do
  let (chomp, given, cur) ← blockHeader? cur.skip
  let cur ← restOfLine? cur
  let least := (max 0 outer).toNat
  let (trailing, widest, cur) ← blockBreaks (given.map (least + ·)) 0 cur
  let indent :=
    match given with
    | some n => least + n
    | none => max (max widest (outer + 1).toNat) 1
  blockLines folded indent chomp (cur.rest.length + 2) ⟨[], trailing, false⟩ cur

end Yaml
end Enrolment

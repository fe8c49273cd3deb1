/-!
A place in YAML text: what is left to read, and the index, line and column of the place. A line
ends at a carriage return, a line feed, the two together, or one of U+0085, U+2028 and U+2029.
-/

namespace Enrolment
namespace Yaml

structure Cursor where
  rest : List Char
  index : Nat
  line : Nat
  column : Nat
  deriving Repr

def isBreak (c : Char) : Bool :=
  c = '\r' || c = '\n' || c = '\u0085' || c = '\u2028' || c = '\u2029'

def isBlank (c : Char) : Bool :=
  c = ' ' || c = '\t'

def isReadable (c : Char) : Bool :=
  c = '\t' || c = '\n' || c = '\r' || (' ' ≤ c && c ≤ '~') || c = '\u0085' ||
    ('\u00a0' ≤ c && c ≤ '\ufffd') || 0x10000 ≤ c.toNat

namespace Cursor

def start (text : List Char) : Cursor :=
  ⟨text, 0, 0, 0⟩

def peek? (cur : Cursor) (distance : Nat) : Option Char :=
  cur.rest[distance]?

def isAt (cur : Cursor) (distance : Nat) (c : Char) : Bool :=
  cur.peek? distance = some c

def isBlankAt (cur : Cursor) (distance : Nat) : Bool :=
  (cur.peek? distance).all fun c => isBlank c || isBreak c

def isBreakAt (cur : Cursor) (distance : Nat) : Bool :=
  (cur.peek? distance).any isBreak

def skip (cur : Cursor) : Cursor :=
  match cur.rest with
  | [] => cur
  | _ :: cs => { cur with rest := cs, index := cur.index + 1, column := cur.column + 1 }

def skipMany (cur : Cursor) : Nat → Cursor
  | 0 => cur
  | n + 1 => cur.skip.skipMany n

/-- A line break in front: what it stands for, and the start of the next line. -/
def lineBreak? (cur : Cursor) : Option (Char × Cursor) :=
  match cur.rest with
  | '\r' :: '\n' :: cs => some ('\n', ⟨cs, cur.index + 2, cur.line + 1, 0⟩)
  | c :: cs =>
      if c = '\r' || c = '\n' || c = '\u0085' then
        some ('\n', ⟨cs, cur.index + 1, cur.line + 1, 0⟩)
      else if c = '\u2028' || c = '\u2029' then
        some (c, ⟨cs, cur.index + 1, cur.line + 1, 0⟩)
      else
        none
  | [] => none

theorem length_skip {cur : Cursor} {c : Char} (h : cur.peek? 0 = some c) :
    cur.skip.rest.length < cur.rest.length := by
  unfold skip
  split
  · next hr => simp [peek?, hr] at h
  · next hr => simp [hr]

theorem length_skip_le (cur : Cursor) : cur.skip.rest.length ≤ cur.rest.length := by
  unfold skip
  split
  · exact Nat.le_refl _
  · next hr => simp [hr]

theorem length_skipMany_le (cur : Cursor) (n : Nat) :
    (cur.skipMany n).rest.length ≤ cur.rest.length := by
  induction n generalizing cur with
  | zero => exact Nat.le_refl _
  | succ n ih => exact Nat.le_trans (ih cur.skip) (length_skip_le cur)

theorem length_lineBreak {cur next : Cursor} {c : Char} (h : cur.lineBreak? = some (c, next)) :
    next.rest.length < cur.rest.length := by
  unfold lineBreak? at h
  split at h
  · next hr =>
      simp only [Option.some.injEq, Prod.mk.injEq] at h
      simp only [← h.2, hr, List.length_cons]
      omega
  · next hr =>
      split at h
      · simp only [Option.some.injEq, Prod.mk.injEq] at h
        simp [← h.2, hr]
      · split at h
        · simp only [Option.some.injEq, Prod.mk.injEq] at h
          simp [← h.2, hr]
        · simp at h
  · simp at h

/-- Whether a document marker stands at the start of a line. -/
def isMarker (cur : Cursor) (c : Char) : Bool :=
  cur.column = 0 && cur.isAt 0 c && cur.isAt 1 c && cur.isAt 2 c && cur.isBlankAt 3

def takeWhile (p : Char → Bool) (cur : Cursor) : List Char × Cursor :=
  match _h : cur.peek? 0 with
  | some c =>
      if p c then
        let (text, next) := takeWhile p cur.skip
        (c :: text, next)
      else
        ([], cur)
  | none => ([], cur)
  termination_by cur.rest.length
  decreasing_by exact length_skip _h

end Cursor
end Yaml
end Enrolment

import Enrolment.Text.Digits

/-!
The tokens of JSON text. Numbers and strings are kept as they are written: whether a number is in
range and whether the escapes of a string name characters is decided later.
-/

namespace Enrolment
namespace Json

/-- A part of a written string: a character, or a code unit given by its number. -/
inductive Piece where
  | char (c : Char)
  | unit (n : Nat)
  deriving DecidableEq, Repr

structure Numeral where
  negative : Bool
  whole : List Char
  fraction : Option (List Char)
  exponent : Option (Bool × List Char)
  deriving DecidableEq, Repr

inductive Token where
  | openBrace
  | closeBrace
  | openBracket
  | closeBracket
  | colon
  | comma
  | null
  | bool (value : Bool)
  | number (numeral : Numeral)
  | string (pieces : List Piece)
  deriving DecidableEq, Repr

def isSpace (c : Char) : Bool :=
  c = ' ' || c = '\t' || c = '\n' || c = '\r'

/-- The character that a letter behind a backslash stands for. -/
def escape? : Char → Option Char
  | '"' => some '"'
  | '\\' => some '\\'
  | '/' => some '/'
  | 'b' => some '\x08'
  | 'f' => some '\x0c'
  | 'n' => some '\n'
  | 'r' => some '\r'
  | 't' => some '\t'
  | _ => none

namespace Token

/-- A string from behind its opening quote, and the rest behind the closing one. Control characters
may not stand in it. -/
def stringBody : List Char → Option (List Piece × List Char)
  | [] => none
  | '"' :: cs => some ([], cs)
  | '\\' :: 'u' :: a :: b :: c :: d :: cs => do
      let a ← Text.hexDigit? a
      let b ← Text.hexDigit? b
      let c ← Text.hexDigit? c
      let d ← Text.hexDigit? d
      let (pieces, rest) ← stringBody cs
      return (.unit (((a * 16 + b) * 16 + c) * 16 + d) :: pieces, rest)
  | '\\' :: c :: cs => do
      let c ← escape? c
      let (pieces, rest) ← stringBody cs
      return (.char c :: pieces, rest)
  | c :: cs =>
      if c < ' ' || c = '\\' then
        none
      else do
        let (pieces, rest) ← stringBody cs
        return (.char c :: pieces, rest)

/-- The digits in front, and the rest. -/
def digits (cs : List Char) : List Char × List Char :=
  (cs.takeWhile Char.isDigit, cs.dropWhile Char.isDigit)

def wholePart : List Char → Option (List Char × List Char)
  | '0' :: cs =>
      match cs with
      | c :: _ => if c.isDigit then none else some (['0'], cs)
      | [] => some (['0'], cs)
  | cs =>
      match digits cs with
      | ([], _) => none
      | (ds, rest) => some (ds, rest)

/-- A point with the digits behind it, if there is one. -/
def fractionPart : List Char → Option (Option (List Char) × List Char)
  | '.' :: cs =>
      match digits cs with
      | ([], _) => none
      | (ds, rest) => some (some ds, rest)
  | cs => some (none, cs)

def exponentDigits (negative : Bool) (cs : List Char) :
    Option (Option (Bool × List Char) × List Char) :=
  match digits cs with
  | ([], _) => none
  | (ds, rest) => some (some (negative, ds), rest)

/-- An exponent, if there is one. -/
def exponentPart : List Char → Option (Option (Bool × List Char) × List Char)
  | c :: cs =>
      if c = 'e' || c = 'E' then
        match cs with
        | '+' :: ds => exponentDigits false ds
        | '-' :: ds => exponentDigits true ds
        | ds => exponentDigits false ds
      else
        some (none, c :: cs)
  | [] => some (none, [])

def unsignedNumber (negative : Bool) (cs : List Char) : Option (Token × List Char) := do
  let (whole, cs) ← wholePart cs
  let (fraction, cs) ← fractionPart cs
  let (exponent, cs) ← exponentPart cs
  return (.number ⟨negative, whole, fraction, exponent⟩, cs)

/-- The token in front, and the rest. -/
def first : List Char → Option (Token × List Char)
  | '\x7b' :: cs => some (openBrace, cs)
  | '\x7d' :: cs => some (closeBrace, cs)
  | '[' :: cs => some (openBracket, cs)
  | ']' :: cs => some (closeBracket, cs)
  | ':' :: cs => some (colon, cs)
  | ',' :: cs => some (comma, cs)
  | 'n' :: 'u' :: 'l' :: 'l' :: cs => some (null, cs)
  | 't' :: 'r' :: 'u' :: 'e' :: cs => some (bool true, cs)
  | 'f' :: 'a' :: 'l' :: 's' :: 'e' :: cs => some (bool false, cs)
  | '"' :: cs => (stringBody cs).map fun (pieces, rest) => (string pieces, rest)
  | '-' :: cs => unsignedNumber true cs
  | cs => unsignedNumber false cs

theorem stringBody_length {cs : List Char} {pieces : List Piece} {rest : List Char}
    (h : stringBody cs = some (pieces, rest)) : rest.length < cs.length := by
  fun_induction stringBody cs generalizing pieces rest with
  | case1 => simp at h
  | case2 cs =>
      simp only [Option.some.injEq, Prod.mk.injEq] at h
      simp [← h.2]
  | case3 a b c d cs ih =>
      simp only [Option.bind_eq_bind, Option.bind_eq_some_iff, Option.pure_def, Option.some.injEq,
        Prod.mk.injEq] at h
      obtain ⟨_, _, _, _, _, _, _, _, ⟨ps, r⟩, hr, _, he⟩ := h
      have := ih hr
      simp only [List.length_cons, ← he]
      omega
  | case4 c cs _ ih =>
      simp only [Option.bind_eq_bind, Option.bind_eq_some_iff, Option.pure_def, Option.some.injEq,
        Prod.mk.injEq] at h
      obtain ⟨_, _, ⟨ps, r⟩, hr, _, he⟩ := h
      have := ih hr
      simp only [List.length_cons, ← he]
      omega
  | case5 => simp at h
  | case6 c cs _ _ _ _ ih =>
      simp only [Option.bind_eq_bind, Option.bind_eq_some_iff, Option.pure_def, Option.some.injEq,
        Prod.mk.injEq] at h
      obtain ⟨⟨ps, r⟩, hr, _, he⟩ := h
      have := ih hr
      simp only [List.length_cons, ← he]
      omega

theorem digits_length (cs : List Char) :
    (digits cs).1.length + (digits cs).2.length = cs.length := by
  rw [← List.length_append]
  simp [digits]

theorem wholePart_length {cs ds rest : List Char} (h : wholePart cs = some (ds, rest)) :
    rest.length < cs.length := by
  unfold wholePart at h
  split at h
  · split at h
    · split at h
      · simp at h
      · simp only [Option.some.injEq, Prod.mk.injEq] at h
        simp [← h.2]
    · simp only [Option.some.injEq, Prod.mk.injEq] at h
      simp [← h.2]
  · have hlen := digits_length cs
    split at h
    · simp at h
    · next ds' rest' hne hd =>
        simp only [Option.some.injEq, Prod.mk.injEq] at h
        have : 0 < ds'.length := by
          cases ds' with
          | nil => exact absurd rfl hne
          | cons => simp
        rw [hd] at hlen
        simp only [← h.2]
        simp only at hlen
        omega

theorem fractionPart_length {cs : List Char} {ds : Option (List Char)} {rest : List Char}
    (h : fractionPart cs = some (ds, rest)) : rest.length ≤ cs.length := by
  unfold fractionPart at h
  split at h
  · next cs =>
      have hlen := digits_length cs
      split at h
      · simp at h
      · next hd =>
          simp only [Option.some.injEq, Prod.mk.injEq] at h
          rw [hd] at hlen
          simp only [← h.2, List.length_cons]
          simp only at hlen
          omega
  · simp only [Option.some.injEq, Prod.mk.injEq] at h
    simp [← h.2]

theorem exponentDigits_length {negative : Bool} {cs : List Char}
    {e : Option (Bool × List Char)} {rest : List Char}
    (h : exponentDigits negative cs = some (e, rest)) : rest.length ≤ cs.length := by
  unfold exponentDigits at h
  have hlen := digits_length cs
  split at h
  · simp at h
  · next hd =>
      simp only [Option.some.injEq, Prod.mk.injEq] at h
      rw [hd] at hlen
      simp only [← h.2]
      simp only at hlen
      omega

theorem exponentPart_length {cs : List Char} {e : Option (Bool × List Char)} {rest : List Char}
    (h : exponentPart cs = some (e, rest)) : rest.length ≤ cs.length := by
  unfold exponentPart at h
  split at h
  · split at h
    · split at h <;>
        · have := exponentDigits_length h
          simp only [List.length_cons]
          omega
    · simp only [Option.some.injEq, Prod.mk.injEq] at h
      simp [← h.2]
  · simp only [Option.some.injEq, Prod.mk.injEq] at h
    simp [← h.2]

theorem unsignedNumber_length {negative : Bool} {cs : List Char} {t : Token} {rest : List Char}
    (h : unsignedNumber negative cs = some (t, rest)) : rest.length < cs.length := by
  simp only [unsignedNumber, Option.bind_eq_bind, Option.bind_eq_some_iff, Option.pure_def,
    Option.some.injEq, Prod.mk.injEq] at h
  obtain ⟨⟨_, r1⟩, h1, ⟨_, r2⟩, h2, ⟨_, r3⟩, h3, _, rfl⟩ := h
  have l1 := wholePart_length h1
  have l2 := fractionPart_length h2
  have l3 := exponentPart_length h3
  simp only at l1 l2 l3 ⊢
  omega

theorem first_length {cs : List Char} {t : Token} {rest : List Char}
    (h : first cs = some (t, rest)) : rest.length < cs.length := by
  unfold first at h
  split at h
  case h_10 =>
      obtain ⟨⟨ps, r⟩, hs, he⟩ := Option.map_eq_some_iff.1 h
      have := stringBody_length hs
      simp only [Prod.mk.injEq] at he
      simp only [List.length_cons, ← he.2]
      omega
  case h_11 =>
      have := unsignedNumber_length h
      simp only [List.length_cons]
      omega
  case h_12 => exact unsignedNumber_length h
  all_goals
    simp only [Option.some.injEq, Prod.mk.injEq] at h
    simp only [← h.2, List.length_cons]
    omega

def scan (cs : List Char) : Option (List Token) :=
  match _hspace : cs.dropWhile isSpace with
  | [] => some []
  | c :: rest =>
      match _hfirst : first (c :: rest) with
      | none => none
      | some (token, rest) => (scan rest).map (token :: ·)
  termination_by cs.length
  decreasing_by
    have h1 := first_length _hfirst
    have h2 : (cs.dropWhile isSpace).length ≤ cs.length :=
      (List.dropWhile_suffix _).sublist.length_le
    rw [_hspace] at h2
    omega

end Token
end Json
end Enrolment

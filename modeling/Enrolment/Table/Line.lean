import Enrolment.Text.Blank

/-!
One line of a table: cells between delimiters. A cell is quoted only if its first character that
is not blank is a quote; quoted text stands for itself, with a doubled quote for one quote.
Anywhere else a quote is an ordinary character. Cells that are not quoted are trimmed.
-/

namespace Enrolment
namespace Line

/-- Text in quotes from behind its opening quote: the text, and what follows the closing quote. -/
def quoted : List Char → Option (List Char × List Char)
  | [] => none
  | '"' :: '"' :: cs => (quoted cs).map fun (text, rest) => ('"' :: text, rest)
  | '"' :: cs => some ([], cs)
  | c :: cs => (quoted cs).map fun (text, rest) => (c :: text, rest)

/-- The characters up to the next delimiter, and the rest from that delimiter on. -/
def upTo (delimiter : Char) (cs : List Char) : List Char × List Char :=
  (cs.takeWhile (· ≠ delimiter), cs.dropWhile (· ≠ delimiter))

/-- The line without the blanks at its start; a delimiter that is blank is not skipped. -/
def skipBlanks (delimiter : Char) (cs : List Char) : List Char :=
  cs.dropWhile fun c => c ≠ delimiter && Text.isBlank c

/-- The first cell of a line, and the rest from the delimiter behind it on. Text between a
closing quote and the delimiter belongs to the cell. -/
def firstCell (delimiter : Char) (cs : List Char) : Option (List Char × List Char) :=
  match skipBlanks delimiter cs with
  | '"' :: body =>
      (quoted body).map fun (text, rest) =>
        (text ++ Text.trimEnd (upTo delimiter rest).1, (upTo delimiter rest).2)
  | bare => some (Text.trimEnd (upTo delimiter bare).1, (upTo delimiter bare).2)

theorem quoted_length {cs : List Char} {text rest : List Char}
    (h : quoted cs = some (text, rest)) : rest.length ≤ cs.length := by
  fun_induction quoted cs generalizing text rest with
  | case1 => simp at h
  | case2 cs ih =>
      obtain ⟨⟨t, r⟩, hq, he⟩ := Option.map_eq_some_iff.1 h
      have := ih hq
      simp only [Prod.mk.injEq] at he
      simp only [List.length_cons, ← he.2]
      omega
  | case3 cs =>
      simp only [Option.some.injEq, Prod.mk.injEq] at h
      simp [← h.2]
  | case4 c cs _ _ ih =>
      obtain ⟨⟨t, r⟩, hq, he⟩ := Option.map_eq_some_iff.1 h
      have := ih hq
      simp only [Prod.mk.injEq] at he
      simp only [List.length_cons, ← he.2]
      omega

theorem firstCell_length {delimiter : Char} {cs cell rest : List Char}
    (h : firstCell delimiter cs = some (cell, rest)) : rest.length ≤ cs.length := by
  have hskip : (skipBlanks delimiter cs).length ≤ cs.length :=
    (List.dropWhile_suffix _).sublist.length_le
  unfold firstCell at h
  split at h
  · next body hb =>
      obtain ⟨⟨t, r⟩, hq, he⟩ := Option.map_eq_some_iff.1 h
      have h1 := quoted_length hq
      have h2 : (upTo delimiter r).2.length ≤ r.length :=
        (List.dropWhile_suffix _).sublist.length_le
      simp only [Prod.mk.injEq] at he
      rw [hb] at hskip
      simp only [List.length_cons] at hskip
      rw [← he.2]
      omega
  · simp only [Option.some.injEq, Prod.mk.injEq] at h
    have h2 : (upTo delimiter (skipBlanks delimiter cs)).2.length ≤
        (skipBlanks delimiter cs).length := (List.dropWhile_suffix _).sublist.length_le
    rw [← h.2]
    omega

def split (delimiter : Char) (cs : List Char) : Option (List (List Char)) :=
  match _hcell : firstCell delimiter cs with
  | none => none
  | some (cell, []) => some [cell]
  | some (cell, _ :: rest) => (split delimiter rest).map (cell :: ·)
  termination_by cs.length
  decreasing_by
    have := firstCell_length _hcell
    simp only [List.length_cons] at this
    omega

/-- A text that would not come back unchanged from a bare cell. -/
def needsQuotes (delimiter : Char) (text : List Char) : Bool :=
  text.contains delimiter || text.contains '"' || text.contains '\n' || text.contains '\r' ||
    Text.trim text != text

/-- Every quote written twice. -/
def doubleQuotes : List Char → List Char
  | [] => []
  | c :: cs => if c = '"' then '"' :: '"' :: doubleQuotes cs else c :: doubleQuotes cs

def writeCell (delimiter : Char) (text : List Char) : List Char :=
  if needsQuotes delimiter text then '"' :: (doubleQuotes text ++ ['"']) else text

/-- The written form of a line of cells, without a line ending. -/
def write (delimiter : Char) (cells : List (List Char)) : List Char :=
  List.intercalate [delimiter] (cells.map (writeCell delimiter))

end Line
end Enrolment

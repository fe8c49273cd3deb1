import Enrolment.Proofs.Text.Blank
import Enrolment.Table.Line

/-!
Written cells read back. Whatever a text holds, its written form followed by a delimiter, or by
nothing, is one cell again; so a written line splits into the cells that it was written from. A
written line that breaks off inside quotes splits into nothing.
-/

namespace Enrolment
namespace Line

/-- What may follow a cell: the end of the line, or a delimiter. -/
inductive CellEnd (delimiter : Char) : List Char → Prop where
  | line : CellEnd delimiter []
  | cell (cs : List Char) : CellEnd delimiter (delimiter :: cs)

theorem doubleQuotes_quote (cs : List Char) :
    doubleQuotes ('"' :: cs) = '"' :: '"' :: doubleQuotes cs :=
  rfl

theorem doubleQuotes_cons {c : Char} (hc : c ≠ '"') (cs : List Char) :
    doubleQuotes (c :: cs) = c :: doubleQuotes cs :=
  if_neg hc

theorem doubleQuotes_append (front back : List Char) :
    doubleQuotes (front ++ back) = doubleQuotes front ++ doubleQuotes back := by
  induction front with
  | nil => rfl
  | cons c cs ih =>
      by_cases hc : c = '"'
      · rw [hc, List.cons_append, doubleQuotes_quote, doubleQuotes_quote, ih]
        rfl
      · rw [List.cons_append, doubleQuotes_cons hc, doubleQuotes_cons hc, ih]
        rfl

/-- A quote that no other quote follows ends the quoted text. -/
theorem quoted_doubleQuotes (text rest : List Char) (hrest : rest.head? ≠ some '"') :
    quoted (doubleQuotes text ++ '"' :: rest) = some (text, rest) := by
  induction text with
  | nil =>
      rw [doubleQuotes, List.nil_append]
      cases rest with
      | nil => rfl
      | cons c cs =>
          rw [quoted]
          intro _ h
          exact hrest (by rw [(List.cons.inj h).1]; rfl)
  | cons c cs ih =>
      by_cases hc : c = '"'
      · rw [hc, doubleQuotes_quote, List.cons_append, List.cons_append, quoted, ih]
        rfl
      · rw [doubleQuotes_cons hc, List.cons_append, quoted, ih]
        · rfl
        · exact fun _ h => absurd h hc
        · exact hc

/-- Doubled quotes never end the quoted text. -/
theorem quoted_doubleQuotes_eq_none (text : List Char) : quoted (doubleQuotes text) = none := by
  induction text with
  | nil => rfl
  | cons c cs ih =>
      by_cases hc : c = '"'
      · rw [hc, doubleQuotes_quote, quoted, ih]
        rfl
      · rw [doubleQuotes_cons hc, quoted, ih]
        · rfl
        · exact fun _ h => absurd h hc
        · exact hc

/-- All that a bare cell is free of. -/
structure Bare (delimiter : Char) (text : List Char) : Prop where
  delimiter_notMem : delimiter ∉ text
  quote_notMem : '"' ∉ text
  feed_notMem : '\n' ∉ text
  return_notMem : '\r' ∉ text
  trimmed : Text.trim text = text

theorem bare_of_needsQuotes {delimiter : Char} {text : List Char}
    (h : needsQuotes delimiter text = false) : Bare delimiter text := by
  simp only [needsQuotes, Bool.or_eq_false_iff, bne_eq_false_iff_eq] at h
  obtain ⟨⟨⟨⟨hdelimiter, hquote⟩, hfeed⟩, hreturn⟩, htrimmed⟩ := h
  have hnotMem : ∀ c, text.contains c = false → c ∉ text := by
    intro c hc hmem
    rw [List.contains_iff_mem.2 hmem] at hc
    cases hc
  exact ⟨hnotMem _ hdelimiter, hnotMem _ hquote, hnotMem _ hfeed, hnotMem _ hreturn, htrimmed⟩

section
variable {delimiter : Char} {text rest : List Char}

theorem upTo_append (htext : delimiter ∉ text) (hrest : CellEnd delimiter rest) :
    upTo delimiter (text ++ rest) = (text, rest) := by
  induction text with
  | nil => cases hrest <;> simp [upTo]
  | cons c cs ih =>
      rw [List.mem_cons, not_or] at htext
      have hcs := Prod.mk.inj (ih htext.2)
      have hc : decide (c ≠ delimiter) = true := decide_eq_true fun h => htext.1 h.symm
      rw [upTo, List.cons_append, List.takeWhile_cons, List.dropWhile_cons, if_pos hc, if_pos hc,
        hcs.1, hcs.2]

theorem skipBlanks_cons_eq_self {c : Char} (cs : List Char)
    (h : c = delimiter ∨ Text.isBlank c = false) :
    skipBlanks delimiter (c :: cs) = c :: cs := by
  rw [skipBlanks, List.dropWhile_cons, if_neg]
  rcases h with h | h
  · simp [h]
  · simp [h]

theorem Bare.skipBlanks (hbare : Bare delimiter text) (hrest : CellEnd delimiter rest) :
    skipBlanks delimiter (text ++ rest) = text ++ rest := by
  cases text with
  | nil =>
      cases hrest with
      | line => rfl
      | cell cs => exact skipBlanks_cons_eq_self cs (.inl rfl)
  | cons c cs =>
      exact skipBlanks_cons_eq_self (cs ++ rest) (.inr (Text.isBlank_head_of_trim hbare.trimmed))

theorem Bare.head_ne_quote (hdelimiter : delimiter ≠ '"') (hbare : Bare delimiter text)
    (hrest : CellEnd delimiter rest) : (text ++ rest).head? ≠ some '"' := by
  cases text with
  | nil =>
      cases hrest with
      | line => simp
      | cell cs => simpa using hdelimiter
  | cons c cs =>
      have hc : '"' ≠ c := by
        rintro rfl
        exact hbare.quote_notMem List.mem_cons_self
      simpa using hc.symm

theorem firstCell_of_bare {cs bare : List Char} (hskip : skipBlanks delimiter cs = bare)
    (hhead : bare.head? ≠ some '"') :
    firstCell delimiter cs =
      some (Text.trimEnd (upTo delimiter bare).1, (upTo delimiter bare).2) := by
  rw [firstCell, hskip]
  split
  · next body => exact absurd rfl hhead
  · rfl

theorem firstCell_of_quoted (body : List Char) :
    firstCell delimiter ('"' :: body) = (quoted body).map fun (text, rest) =>
      (text ++ Text.trimEnd (upTo delimiter rest).1, (upTo delimiter rest).2) := by
  rw [firstCell, skipBlanks_cons_eq_self body (.inr (by decide))]
  rfl

/-- The written form of a text is one cell, and that text is its content. -/
theorem firstCell_writeCell (hdelimiter : delimiter ≠ '"') (text : List Char)
    (hrest : CellEnd delimiter rest) :
    firstCell delimiter (writeCell delimiter text ++ rest) = some (text, rest) := by
  rw [writeCell]
  split
  · have hhead : rest.head? ≠ some '"' := by
      cases hrest with
      | line => simp
      | cell cs => simpa using hdelimiter
    have hnone : upTo delimiter ([] ++ rest) = ([], rest) := upTo_append List.not_mem_nil hrest
    rw [List.nil_append] at hnone
    rw [List.cons_append, List.append_assoc, List.singleton_append, firstCell_of_quoted,
      quoted_doubleQuotes text rest hhead, Option.map_some]
    simp only [hnone, Text.trimEnd, List.append_nil]
  · next hbare =>
      have b := bare_of_needsQuotes (Bool.eq_false_iff.2 hbare)
      rw [firstCell_of_bare (b.skipBlanks hrest) (b.head_ne_quote hdelimiter hrest),
        upTo_append b.delimiter_notMem hrest, Text.trimEnd_eq_self_of_trim b.trimmed]

end

theorem split_of_last {delimiter : Char} {cs cell : List Char}
    (h : firstCell delimiter cs = some (cell, [])) : split delimiter cs = some [cell] := by
  rw [split]
  split
  · next hnone => rw [h] at hnone; cases hnone
  · next hlast => rw [h] at hlast; cases hlast; rfl
  · next hmore => rw [h] at hmore; cases hmore

theorem split_of_more {delimiter : Char} {cs cell rest : List Char} {d : Char}
    (h : firstCell delimiter cs = some (cell, d :: rest)) :
    split delimiter cs = (split delimiter rest).map (cell :: ·) := by
  rw [split]
  split
  · next hnone => rw [h] at hnone; cases hnone
  · next hlast => rw [h] at hlast; cases hlast
  · next hmore => rw [h] at hmore; cases hmore; rfl

theorem split_of_none {delimiter : Char} {cs : List Char}
    (h : firstCell delimiter cs = none) : split delimiter cs = none := by
  rw [split]
  split
  · rfl
  · next hlast => rw [h] at hlast; cases hlast
  · next hmore => rw [h] at hmore; cases hmore

theorem split_writeCell_cons {delimiter : Char} (hdelimiter : delimiter ≠ '"')
    (text rest : List Char) :
    split delimiter (writeCell delimiter text ++ delimiter :: rest) =
      (split delimiter rest).map (text :: ·) :=
  split_of_more (firstCell_writeCell hdelimiter text (.cell rest))

theorem write_cons_cons (delimiter : Char) (first second : List Char)
    (cells : List (List Char)) :
    write delimiter (first :: second :: cells) =
      writeCell delimiter first ++ delimiter :: write delimiter (second :: cells) := by
  simp [write, List.intercalate]

theorem write_singleton (delimiter : Char) (cell : List Char) :
    write delimiter [cell] = writeCell delimiter cell := by
  simp [write, List.intercalate]

/-- A written line splits into the cells that it was written from. -/
theorem split_write {delimiter : Char} (hdelimiter : delimiter ≠ '"') (first : List Char)
    (cells : List (List Char)) :
    split delimiter (write delimiter (first :: cells)) = some (first :: cells) := by
  induction cells generalizing first with
  | nil =>
      have h := firstCell_writeCell hdelimiter first CellEnd.line
      rw [List.append_nil] at h
      rw [write_singleton]
      exact split_of_last h
  | cons second cells ih =>
      rw [write_cons_cons, split_writeCell_cons hdelimiter, ih]
      rfl

theorem split_write_of_ne_nil {delimiter : Char} (hdelimiter : delimiter ≠ '"')
    {cells : List (List Char)} (hcells : cells ≠ []) :
    split delimiter (write delimiter cells) = some cells := by
  cases cells with
  | nil => exact absurd rfl hcells
  | cons first others => exact split_write hdelimiter first others

/-- Cells in written form, each with the delimiter behind it. -/
def writeFront (delimiter : Char) (cells : List (List Char)) : List Char :=
  cells.flatMap fun cell => writeCell delimiter cell ++ [delimiter]

theorem writeFront_cons (delimiter : Char) (cell : List Char) (cells : List (List Char)) :
    writeFront delimiter (cell :: cells) =
      writeCell delimiter cell ++ delimiter :: writeFront delimiter cells := by
  simp [writeFront]

/-- A line that breaks off inside quotes is no line of cells. -/
theorem split_open {delimiter : Char} (hdelimiter : delimiter ≠ '"') (front : List (List Char))
    (text : List Char) :
    split delimiter (writeFront delimiter front ++ '"' :: doubleQuotes text) = none := by
  induction front with
  | nil =>
      apply split_of_none
      rw [writeFront, List.flatMap_nil, List.nil_append, firstCell_of_quoted,
        quoted_doubleQuotes_eq_none]
      rfl
  | cons cell front ih =>
      rw [writeFront_cons, List.append_assoc, List.cons_append, split_writeCell_cons hdelimiter, ih]
      rfl

theorem mem_doubleQuotes_iff {c : Char} {text : List Char} :
    c ∈ doubleQuotes text ↔ c ∈ text := by
  induction text with
  | nil => rfl
  | cons d cs ih =>
      by_cases hd : d = '"'
      · rw [hd, doubleQuotes_quote]
        simp [ih]
      · rw [doubleQuotes_cons hd]
        simp [ih]

theorem mem_writeCell_iff {delimiter c : Char} {text : List Char} (hc : c ≠ '"') :
    c ∈ writeCell delimiter text ↔ c ∈ text := by
  rw [writeCell]
  split
  · simp [mem_doubleQuotes_iff, hc]
  · rfl

theorem mem_write_iff {delimiter c : Char} {cells : List (List Char)} (hc : c ≠ '"')
    (hdelimiter : c ≠ delimiter) :
    c ∈ write delimiter cells ↔ ∃ cell ∈ cells, c ∈ cell := by
  induction cells with
  | nil => simp [write]
  | cons first cells ih =>
      cases cells with
      | nil => simp [write_singleton, mem_writeCell_iff hc]
      | cons second cells =>
          rw [write_cons_cons, List.mem_append, List.mem_cons, mem_writeCell_iff hc, ih]
          simp [hdelimiter]

/-- A carriage return at the end of a cell is inside its quotes. -/
theorem getLast?_writeCell_ne (delimiter : Char) (text : List Char) :
    (writeCell delimiter text).getLast? ≠ some '\r' := by
  rw [writeCell]
  split
  · rw [← List.cons_append, List.getLast?_concat]
    decide
  · next hbare =>
      intro h
      exact (bare_of_needsQuotes (Bool.eq_false_iff.2 hbare)).return_notMem
        (List.mem_of_getLast? h)

theorem getLast?_write_ne {delimiter : Char} (hdelimiter : delimiter ≠ '\r')
    (cells : List (List Char)) : (write delimiter cells).getLast? ≠ some '\r' := by
  induction cells with
  | nil => simp [write]
  | cons first cells ih =>
      cases cells with
      | nil =>
          rw [write_singleton]
          exact getLast?_writeCell_ne delimiter first
      | cons second cells =>
          rw [write_cons_cons, List.getLast?_append, List.getLast?_cons]
          cases hlast : (write delimiter (second :: cells)).getLast? with
          | none => simpa using hdelimiter
          | some c =>
              rw [hlast] at ih
              simpa using ih

/-- Only an empty cell is written as blanks. -/
theorem allBlank_writeCell (delimiter : Char) (text : List Char) :
    Text.allBlank (writeCell delimiter text) = text.isEmpty := by
  rw [writeCell]
  split
  · next hquotes =>
      cases text with
      | nil => simp [needsQuotes, Text.trim, Text.trimStart, Text.trimEnd] at hquotes
      | cons c cs => rfl
  · next hbare =>
      cases text with
      | nil => rfl
      | cons c cs =>
          have htrimmed := (bare_of_needsQuotes (Bool.eq_false_iff.2 hbare)).trimmed
          rw [Text.allBlank, List.all_cons, Text.isBlank_head_of_trim htrimmed]
          rfl

theorem allBlank_write (delimiter : Char) (first second : List Char)
    (cells : List (List Char)) :
    Text.allBlank (write delimiter (first :: second :: cells)) =
      (Text.isBlank delimiter && (first :: second :: cells).all List.isEmpty) := by
  induction cells generalizing first second with
  | nil =>
      rw [write_cons_cons, write_singleton, Text.allBlank_append, allBlank_writeCell]
      change (first.isEmpty && (Text.isBlank delimiter && Text.allBlank _)) = _
      rw [allBlank_writeCell, List.all_cons, List.all_cons, List.all_nil]
      cases first.isEmpty <;> cases second.isEmpty <;> cases Text.isBlank delimiter <;> rfl
  | cons third cells ih =>
      rw [write_cons_cons, Text.allBlank_append, allBlank_writeCell]
      change (first.isEmpty && (Text.isBlank delimiter && Text.allBlank _)) = _
      rw [ih, List.all_cons (a := first)]
      cases first.isEmpty <;> cases Text.isBlank delimiter <;> rfl

/-- Where a line is cut that holds a line feed in a cell: inside the quotes of the first such
cell. -/
theorem exists_cut (delimiter : Char) {cells : List (List Char)}
    (h : ∃ cell ∈ cells, '\n' ∈ cell) :
    ∃ front text rest, write delimiter cells =
        writeFront delimiter front ++ '"' :: doubleQuotes text ++ '\n' :: rest ∧
      (∀ cell ∈ front, '\n' ∉ cell) ∧ '\n' ∉ text := by
  induction cells with
  | nil => simp at h
  | cons first cells ih =>
      by_cases hfirst : '\n' ∈ first
      · obtain ⟨text, after, rfl, htext⟩ := List.eq_append_cons_of_mem hfirst
        have hquotes : needsQuotes delimiter (text ++ '\n' :: after) = true := by
          simp [needsQuotes]
        have hcell : writeCell delimiter (text ++ '\n' :: after) =
            '"' :: doubleQuotes text ++ '\n' :: (doubleQuotes after ++ ['"']) := by
          rw [writeCell, if_pos hquotes, doubleQuotes_append]
          simp [doubleQuotes]
        cases cells with
        | nil =>
            refine ⟨[], text, doubleQuotes after ++ ['"'], ?_, by simp, htext⟩
            rw [write_singleton, hcell]
            rfl
        | cons second cells =>
            refine ⟨[], text, doubleQuotes after ++ ['"'] ++
              delimiter :: write delimiter (second :: cells), ?_, by simp, htext⟩
            rw [write_cons_cons, hcell]
            simp [writeFront]
      · cases cells with
        | nil => simp [hfirst] at h
        | cons second cells =>
            obtain ⟨front, text, rest, hwrite, hfront, htext⟩ := ih (by simpa [hfirst] using h)
            refine ⟨first :: front, text, rest, ?_, ?_, htext⟩
            · rw [write_cons_cons, hwrite, writeFront_cons]
              simp
            · intro cell hcell
              rcases List.mem_cons.1 hcell with rfl | hcell
              · exact hfirst
              · exact hfront cell hcell

end Line
end Enrolment

import Enrolment.Proofs.Table.Quoting
import Enrolment.Table.Grammar

/-!
The grammar of a line beside the reader of lines. The reader cuts off one cell after the other and
looks ahead; the automaton sees each character once. Both find the same cells, and both fail on just
those lines that end inside quotes.

A delimiter that is itself a quote is not covered: there the reader takes a quote at the start of a
cell for an opening one, and the automaton takes it for the end of an empty cell.
-/

namespace Enrolment
namespace Line

/-- Whether the character ends the cell at this place. -/
def Place.endsAt (delimiter : Char) (place : Place) (c : Char) : Bool :=
  c = delimiter && !place.isInside

/-- The place behind the character. -/
def Place.next (delimiter : Char) (place : Place) (c : Char) : Place :=
  if place.endsAt delimiter c then .before else place.advance c

/-- The place at which a line ends. -/
def lastPlace (delimiter : Char) (line : List Char) : Place :=
  line.foldl (Place.next delimiter) .before

def cutsFrom (delimiter : Char) : Place → List Char → Nat
  | _, [] => 0
  | place, c :: cs =>
      (if place.endsAt delimiter c then 1 else 0) + cutsFrom delimiter (place.next delimiter c) cs

/-- How many delimiters of a line stand outside of quoted text. -/
def cuts (delimiter : Char) (line : List Char) : Nat :=
  cutsFrom delimiter .before line

/-- The cells of a line, of which the first is known with all that stands behind it. -/
def resume (delimiter : Char) (cell : List Char) : List Char → Option (List (List Char))
  | [] => some [cell]
  | _ :: rest => (scan delimiter rest).map (cell :: ·)

theorem Place.close_eq_none_iff {place : Place} :
    place.close = none ↔ place.isInside = true := by
  cases place <;> simp [close, isInside]

section
variable {delimiter : Char}

theorem scanFrom_cons_of_ends {place : Place} {c : Char} (h : place.endsAt delimiter c = true)
    (cs : List Char) : scanFrom delimiter place (c :: cs) =
      place.close.bind fun cell => (scan delimiter cs).map (cell :: ·) :=
  if_pos h

theorem scanFrom_cons_of_not_ends {place : Place} {c : Char}
    (h : place.endsAt delimiter c = false) (cs : List Char) :
    scanFrom delimiter place (c :: cs) = scanFrom delimiter (place.advance c) cs :=
  if_neg (Bool.eq_false_iff.1 h)

theorem scanFrom_eq_none_iff (place : Place) (cs : List Char) :
    scanFrom delimiter place cs = none ↔
      (cs.foldl (Place.next delimiter) place).isInside = true := by
  induction cs generalizing place with
  | nil => rw [scanFrom, Option.map_eq_none_iff, Place.close_eq_none_iff, List.foldl_nil]
  | cons c cs ih =>
      rw [List.foldl_cons, Place.next]
      cases h : place.endsAt delimiter c with
      | true =>
          have hinside : place.isInside = false := by
            simp only [Place.endsAt, Bool.and_eq_true] at h
            simpa using h.2
          obtain ⟨cell, hcell⟩ := Option.ne_none_iff_exists'.1
            (mt Place.close_eq_none_iff.1 (Bool.eq_false_iff.1 hinside))
          rw [scanFrom_cons_of_ends h, hcell, Option.bind_some, Option.map_eq_none_iff, scan, ih,
            if_pos rfl]
      | false => rw [scanFrom_cons_of_not_ends h, ih, if_neg Bool.false_ne_true]

theorem length_of_scanFrom {place : Place} {cs : List Char} {cells : List (List Char)}
    (h : scanFrom delimiter place cs = some cells) :
    cells.length = cutsFrom delimiter place cs + 1 := by
  induction cs generalizing place cells with
  | nil =>
      rw [scanFrom] at h
      obtain ⟨cell, _, rfl⟩ := Option.map_eq_some_iff.1 h
      rfl
  | cons c cs ih =>
      rw [cutsFrom, Place.next]
      cases hends : place.endsAt delimiter c with
      | true =>
          rw [scanFrom_cons_of_ends hends] at h
          obtain ⟨cell, _, h⟩ := Option.bind_eq_some_iff.1 h
          obtain ⟨others, hothers, rfl⟩ := Option.map_eq_some_iff.1 h
          rw [List.length_cons, ih hothers, if_pos rfl, if_pos rfl, Nat.add_comm 1]
      | false =>
          rw [scanFrom_cons_of_not_ends hends] at h
          rw [ih h, if_neg Bool.false_ne_true, if_neg Bool.false_ne_true, Nat.zero_add]

/-- Bare text and trailing text run to the next delimiter, whatever they hold. -/
theorem scanFrom_of_runs {place : List Char → Place} {cell : List Char → List Char}
    (hclose : ∀ text, (place text).close = some (cell text))
    (hadvance : ∀ text c, (place text).advance c = place (c :: text))
    (hinside : ∀ text, (place text).isInside = false) (text cs : List Char) :
    scanFrom delimiter (place text) cs =
      resume delimiter (cell ((upTo delimiter cs).1.reverse ++ text)) (upTo delimiter cs).2 := by
  induction cs generalizing text with
  | nil =>
      rw [scanFrom, hclose]
      rfl
  | cons c cs ih =>
      by_cases hc : c = delimiter
      · have hends : (place text).endsAt delimiter c = true := by
          simp [Place.endsAt, hc, hinside]
        rw [scanFrom_cons_of_ends hends, hclose, Option.bind_some, hc]
        simp [upTo, resume]
      · have hends : (place text).endsAt delimiter c = false := by
          simp [Place.endsAt, hc]
        have hupTo : upTo delimiter (c :: cs) =
            (c :: (upTo delimiter cs).1, (upTo delimiter cs).2) := by
          simp [upTo, hc]
        rw [scanFrom_cons_of_not_ends hends, hadvance, ih, hupTo, List.reverse_cons,
          List.append_assoc, List.singleton_append]

theorem scanFrom_bare (text cs : List Char) :
    scanFrom delimiter (.bare text) cs =
      resume delimiter (Text.trimEnd (text.reverse ++ (upTo delimiter cs).1))
        (upTo delimiter cs).2 := by
  have hclose : ∀ text, (Place.bare text).close = some (Text.trimEnd text.reverse) :=
    fun _ => rfl
  rw [scanFrom_of_runs hclose (fun _ _ => rfl) (fun _ => rfl), List.reverse_append,
    List.reverse_reverse]

theorem scanFrom_trailing (quotedText text cs : List Char) :
    scanFrom delimiter (.trailing quotedText text) cs =
      resume delimiter
        (quotedText.reverse ++ Text.trimEnd (text.reverse ++ (upTo delimiter cs).1))
        (upTo delimiter cs).2 := by
  have hclose : ∀ text, (Place.trailing quotedText text).close =
      some (quotedText.reverse ++ Text.trimEnd text.reverse) := fun _ => rfl
  rw [scanFrom_of_runs hclose (fun _ _ => rfl) (fun _ => rfl), List.reverse_append,
    List.reverse_reverse]

/-- Behind a closing quote stands the end of the cell or text that trails it. -/
theorem scanFrom_afterQuote (text : List Char) {cs : List Char} (hcs : cs.head? ≠ some '"') :
    scanFrom delimiter (.afterQuote text) cs =
      resume delimiter (text.reverse ++ Text.trimEnd (upTo delimiter cs).1)
        (upTo delimiter cs).2 := by
  cases cs with
  | nil => simp [scanFrom, Place.close, upTo, resume, Text.trimEnd]
  | cons c cs =>
      by_cases hc : c = delimiter
      · have hends : (Place.afterQuote text).endsAt delimiter c = true := by
          simp [Place.endsAt, hc, Place.isInside]
        rw [scanFrom_cons_of_ends hends, hc]
        simp [Place.close, upTo, resume, Text.trimEnd]
      · have hends : (Place.afterQuote text).endsAt delimiter c = false := by
          simp [Place.endsAt, hc]
        have hquote : c ≠ '"' := by
          rintro rfl
          exact hcs rfl
        rw [scanFrom_cons_of_not_ends hends, Place.advance, if_neg hquote, scanFrom_trailing]
        simp [upTo, hc]

variable (hdelimiter : delimiter ≠ '"')
include hdelimiter

/-- Text in quotes, to its closing quote and on to the end of the cell. -/
theorem scanFrom_inside (text cs : List Char) :
    scanFrom delimiter (.inside text) cs = (quoted cs).bind fun (inner, rest) =>
      resume delimiter (text.reverse ++ inner ++ Text.trimEnd (upTo delimiter rest).1)
        (upTo delimiter rest).2 := by
  have hinside : ∀ text c, (Place.inside text).endsAt delimiter c = false := by
    simp [Place.endsAt, Place.isInside]
  fun_induction quoted cs generalizing text with
  | case1 => rfl
  | case2 cs ih =>
      have hquote : (Place.afterQuote text).endsAt delimiter '"' = false := by
        simp [Place.endsAt, hdelimiter.symm]
      rw [scanFrom_cons_of_not_ends (hinside text _), Place.advance, if_pos rfl,
        scanFrom_cons_of_not_ends hquote, Place.advance, if_pos rfl, ih]
      cases quoted cs <;> simp
  | case3 cs hcs =>
      have hhead : cs.head? ≠ some '"' := by
        cases cs with
        | nil => simp
        | cons c cs =>
            intro h
            exact hcs cs (by rw [Option.some.inj h])
      rw [scanFrom_cons_of_not_ends (hinside text _), Place.advance, if_pos rfl,
        scanFrom_afterQuote text hhead, Option.bind_some]
      simp only [List.append_nil]
  | case4 c cs _ hc ih =>
      rw [scanFrom_cons_of_not_ends (hinside text _), Place.advance, if_neg hc, ih]
      cases quoted cs <;> simp

/-- The automaton reads the first cell as the reader of lines does, and goes on behind it. -/
theorem scan_eq_resume (cs : List Char) :
    scan delimiter cs = (firstCell delimiter cs).bind fun (cell, rest) =>
      resume delimiter cell rest := by
  induction cs with
  | nil => rfl
  | cons c cs ih =>
      by_cases hc : c = delimiter
      · have hends : Place.before.endsAt delimiter c = true := by
          simp [Place.endsAt, hc, Place.isInside]
        have hquote : (c :: cs).head? ≠ some '"' := by simpa [hc] using hdelimiter
        rw [scan, scanFrom_cons_of_ends hends,
          firstCell_of_bare (skipBlanks_cons_eq_self cs (.inl hc)) hquote, hc]
        simp [Place.close, upTo, resume, Text.trimEnd]
      · have hends : Place.before.endsAt delimiter c = false := by
          simp [Place.endsAt, hc]
        rw [scan, scanFrom_cons_of_not_ends hends, Place.advance]
        by_cases hquote : c = '"'
        · rw [if_pos hquote, scanFrom_inside hdelimiter, hquote, firstCell_of_quoted]
          cases quoted cs <;> simp
        · rw [if_neg hquote]
          cases hblank : Text.isBlank c with
          | true =>
              have hskip : firstCell delimiter (c :: cs) = firstCell delimiter cs := by
                simp [firstCell, skipBlanks, hc, hblank]
              rw [if_pos rfl, hskip, ← ih, scan]
          | false =>
              have hhead : (c :: cs).head? ≠ some '"' := by simpa using hquote
              rw [if_neg Bool.false_ne_true, scanFrom_bare,
                firstCell_of_bare (skipBlanks_cons_eq_self cs (.inr hblank)) hhead]
              simp [upTo, hc]

theorem split_eq_scan (line : List Char) : split delimiter line = scan delimiter line := by
  fun_induction split delimiter line with
  | case1 line hnone => rw [scan_eq_resume hdelimiter, hnone, Option.bind_none]
  | case2 line cell hlast =>
      rw [scan_eq_resume hdelimiter, hlast]
      rfl
  | case3 line cell d rest hmore ih =>
      rw [scan_eq_resume hdelimiter, hmore, ih]
      rfl

theorem split_eq_none_iff (line : List Char) :
    split delimiter line = none ↔ (lastPlace delimiter line).isInside = true := by
  rw [split_eq_scan hdelimiter]
  exact scanFrom_eq_none_iff .before line

end

/-- The reader of lines follows the grammar: it finds the cells that the automaton finds. It fails
if and only if the line ends in quoted text, and otherwise there is one cell more than there are
delimiters outside of quoted text. -/
theorem split_follows_grammar {delimiter : Char} (hdelimiter : delimiter ≠ '"')
    (line : List Char) :
    split delimiter line = scan delimiter line ∧
      (split delimiter line = none ↔ (lastPlace delimiter line).isInside = true) ∧
      ∀ cells, split delimiter line = some cells → cells.length = cuts delimiter line + 1 := by
  have hscan := split_eq_scan hdelimiter line
  refine ⟨hscan, split_eq_none_iff hdelimiter line, ?_⟩
  intro cells hcells
  rw [hscan] at hcells
  exact length_of_scanFrom hcells

/-- A blank delimiter, doubled quotes at the end of quoted text, text behind a closing quote, a
quote within bare text; and a line whose last quote is one of a pair. -/
theorem split_follows_grammar_of_tabs :
    '\t' ≠ '"' ∧
      split '\t' "\t \"a\t\"\"\"b \" \t c\" \t".toList =
        some ["".toList, "a\t\"b \"".toList, "c\"".toList, "".toList] ∧
      cuts '\t' "\t \"a\t\"\"\"b \" \t c\" \t".toList = 3 ∧
      split '\t' "c\t\"\td\"\"".toList = none := by
  have hdelimiter : '\t' ≠ '"' := by decide
  obtain ⟨hscan, _, hlength⟩ :=
    split_follows_grammar hdelimiter "\t \"a\t\"\"\"b \" \t c\" \t".toList
  have hcells := hscan.trans (show _ =
    some ["".toList, "a\t\"b \"".toList, "c\"".toList, "".toList] by decide +kernel)
  refine ⟨hdelimiter, hcells, (Nat.succ.inj (hlength _ hcells)).symm, ?_⟩
  exact (split_follows_grammar hdelimiter "c\t\"\td\"\"".toList).2.1.2 (by decide +kernel)

/-- With a quote for a delimiter the two differ. -/
example : split '"' ['"'] = none ∧ scan '"' ['"'] = some [[], []] := by decide +kernel

end Line
end Enrolment

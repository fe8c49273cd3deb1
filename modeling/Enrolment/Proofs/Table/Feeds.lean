import Enrolment.Proofs.Table.DataLines
import Enrolment.Proofs.Table.RoundTrip

/-!
Where line feeds are. Lines hold none, and a cell has only characters of its line; so no cell that is
read from a text holds a line feed. A written table in turn has one line for each of its rows exactly
if no cell of it holds one.
-/

namespace Enrolment

theorem Text.feed_notMem_lines (cs : List Char) : ∀ line ∈ lines cs, '\n' ∉ line := by
  fun_induction lines cs with
  | case1 => simp
  | case2 cs ih | case3 cs ih => simpa using ih
  | case4 c cs hfeed _ hnone ih =>
      have hc : '\n' ≠ c := fun h => hfeed h.symm
      simpa using hc
  | case5 c cs hfeed _ line others hsome ih =>
      have hc : '\n' ≠ c := fun h => hfeed h.symm
      rw [hsome] at ih
      simpa [hc] using ih

theorem Text.trimEnd_prefix (cs : List Char) : trimEnd cs <+: cs := by
  induction cs with
  | nil => exact List.prefix_refl _
  | cons c cs ih =>
      rw [trimEnd]
      split
      · split
        · exact List.nil_prefix
        · exact List.cons_prefix_cons.2 ⟨rfl, List.nil_prefix⟩
      · next d ds hcs =>
          rw [hcs] at ih
          exact List.cons_prefix_cons.2 ⟨rfl, ih⟩

namespace Line

section
variable {delimiter : Char} {cs text cell rest : List Char}

theorem subset_of_quoted (h : quoted cs = some (text, rest)) : text ⊆ cs ∧ rest ⊆ cs := by
  fun_induction quoted cs generalizing text rest with
  | case1 => cases h
  | case3 cs =>
      obtain ⟨rfl, rfl⟩ := Prod.mk.inj (Option.some.inj h)
      exact ⟨List.nil_subset _, List.subset_cons_self _ _⟩
  | case2 cs ih =>
      obtain ⟨⟨inner, behind⟩, hquoted, heq⟩ := Option.map_eq_some_iff.1 h
      obtain ⟨rfl, rfl⟩ := Prod.mk.inj heq
      obtain ⟨hinner, hbehind⟩ := ih hquoted
      exact ⟨List.cons_subset_cons _ (List.subset_cons_of_subset _ hinner),
        List.subset_cons_of_subset _ (List.subset_cons_of_subset _ hbehind)⟩
  | case4 c cs _ _ ih =>
      obtain ⟨⟨inner, behind⟩, hquoted, heq⟩ := Option.map_eq_some_iff.1 h
      obtain ⟨rfl, rfl⟩ := Prod.mk.inj heq
      obtain ⟨hinner, hbehind⟩ := ih hquoted
      exact ⟨List.cons_subset_cons _ hinner, List.subset_cons_of_subset _ hbehind⟩

theorem subset_of_upTo (delimiter : Char) (cs : List Char) :
    Text.trimEnd (upTo delimiter cs).1 ⊆ cs ∧ (upTo delimiter cs).2 ⊆ cs :=
  ⟨List.Subset.trans (Text.trimEnd_prefix _).subset (List.takeWhile_prefix _).subset,
    (List.dropWhile_suffix _).subset⟩

/-- A cell, and what stands behind it, have only characters of the line. -/
theorem subset_of_firstCell (h : firstCell delimiter cs = some (cell, rest)) :
    cell ⊆ cs ∧ rest ⊆ cs := by
  have hskip : skipBlanks delimiter cs ⊆ cs := (List.dropWhile_suffix _).subset
  rw [firstCell] at h
  split at h
  · next body hbody =>
      have hbody : body ⊆ cs := by
        rw [hbody] at hskip
        exact List.Subset.trans (List.subset_cons_self _ _) hskip
      obtain ⟨⟨text, behind⟩, hquoted, heq⟩ := Option.map_eq_some_iff.1 h
      obtain ⟨rfl, rfl⟩ := Prod.mk.inj heq
      obtain ⟨htext, hbehind⟩ := subset_of_quoted hquoted
      obtain ⟨hfront, hback⟩ := subset_of_upTo delimiter behind
      have hbehind : behind ⊆ cs := List.Subset.trans hbehind hbody
      exact ⟨List.append_subset.2
          ⟨List.Subset.trans htext hbody, List.Subset.trans hfront hbehind⟩,
        List.Subset.trans hback hbehind⟩
  · obtain ⟨rfl, rfl⟩ := Prod.mk.inj (Option.some.inj h)
    obtain ⟨hfront, hback⟩ := subset_of_upTo delimiter (skipBlanks delimiter cs)
    exact ⟨List.Subset.trans hfront hskip, List.Subset.trans hback hskip⟩

theorem subset_of_split {cells : List (List Char)} (h : split delimiter cs = some cells) :
    ∀ cell ∈ cells, cell ⊆ cs := by
  fun_induction split delimiter cs generalizing cells with
  | case1 => cases h
  | case2 cs cell hcell =>
      obtain rfl := Option.some.inj h
      simpa using (subset_of_firstCell hcell).1
  | case3 cs cell d rest hcell ih =>
      obtain ⟨others, hothers, rfl⟩ := Option.map_eq_some_iff.1 h
      obtain ⟨hfirst, hrest⟩ := subset_of_firstCell hcell
      intro other hother
      rcases List.mem_cons.1 hother with rfl | hother
      · exact hfirst
      · have hbehind : rest ⊆ cs := List.Subset.trans (List.subset_cons_self _ _) hrest
        exact List.Subset.trans (ih hothers other hother) hbehind

end

end Line

namespace Sheet

/-- No data line has a line feed in any column. -/
theorem feed_notMem_cellBelow (delimiter : Char) (header : List (List Char)) {text : String}
    {line : List Char × Nat} (hline : line ∈ dataLines text) (column : Column) :
    '\n' ∉ (cellBelow delimiter header line.1 column).toList := by
  have hfeed : '\n' ∉ line.1 := by
    have hmem := List.mem_of_mem_tail (List.fst_mem_of_mem_zipIdx (List.mem_filter.1 hline).1)
    rw [linesOf_eq] at hmem
    exact Text.feed_notMem_lines _ _ hmem
  rw [cellBelow]
  split
  · next i cells _ hcells =>
      rw [String.toList_ofList, List.getD_eq_getElem?_getD]
      cases hcell : cells[i]? with
      | none => simp
      | some cell =>
          exact fun h => hfeed (Line.subset_of_split hcells cell (List.mem_of_getElem? hcell) h)
  · simp

/-- The text is made of the given lines, each ended by a line feed. -/
structure ConsistsOf (text : String) (lines : List (List Char)) : Prop where
  text_eq : text.toList = lines.flatMap (· ++ ['\n'])
  whole : ∀ line ∈ lines, '\n' ∉ line

theorem ConsistsOf.count_feed {text : String} {lines : List (List Char)}
    (h : ConsistsOf text lines) : text.toList.count '\n' = lines.length := by
  rw [h.text_eq]
  have hwhole := h.whole
  clear h
  induction lines with
  | nil => rfl
  | cons line lines ih =>
      have hline := List.count_eq_zero.2 (hwhole line List.mem_cons_self)
      have hlines := ih fun other hother => hwhole other (List.mem_cons_of_mem _ hother)
      rw [List.flatMap_cons, List.count_append, List.count_append, hline, hlines]
      simp [Nat.add_comm]

section
variable {delimiter : Char} (d : Usable delimiter)
include d

theorem feed_notMem_writeLine_iff {row : List String} :
    '\n' ∉ Line.write delimiter (row.map String.toList) ↔ ∀ cell ∈ row, '\n' ∉ cell.toList := by
  rw [Line.mem_write_iff (by decide) d.ne_feed.symm]
  simp

/-- Each row ends with a line feed; any other one is in a cell. -/
theorem count_feed_write (table : List (List String)) :
    table.length ≤ (write delimiter table).toList.count '\n' ∧
      ((write delimiter table).toList.count '\n' = table.length →
        ∀ row ∈ table, ∀ cell ∈ row, '\n' ∉ cell.toList) := by
  induction table with
  | nil => exact ⟨Nat.zero_le _, by simp⟩
  | cons row table ih =>
      obtain ⟨hle, hwhole⟩ := ih
      rw [toList_write_cons, List.count_append, List.count_cons_self, List.length_cons]
      refine ⟨by omega, fun heq => ?_⟩
      have hrow : (Line.write delimiter (row.map String.toList)).count '\n' = 0 := by omega
      intro other hother
      rcases List.mem_cons.1 hother with rfl | hother
      · exact (feed_notMem_writeLine_iff d).1 (List.count_eq_zero.1 hrow)
      · exact hwhole (by omega) other hother

theorem consistsOf_write {table : List (List String)}
    (h : ∀ row ∈ table, ∀ cell ∈ row, '\n' ∉ cell.toList) :
    ConsistsOf (write delimiter table)
      (table.map fun row => Line.write delimiter (row.map String.toList)) := by
  refine ⟨?_, ?_⟩
  · rw [toList_write, List.flatMap_map]
  · intro line hline
    obtain ⟨row, hrow, rfl⟩ := List.mem_map.1 hline
    exact (feed_notMem_writeLine_iff d).2 (h row hrow)

/-- A written table has as many lines as rows only if no cell holds a line feed. -/
theorem feed_notMem_of_consistsOf {table : List (List String)} {lines : List (List Char)}
    (h : ConsistsOf (write delimiter table) lines) (hlength : lines.length = table.length) :
    ∀ row ∈ table, ∀ cell ∈ row, '\n' ∉ cell.toList :=
  (count_feed_write d table).2 (h.count_feed.trans hlength)

end

end Sheet
end Enrolment

import Enrolment.Proofs.Export
import Enrolment.Proofs.Import
import Enrolment.Proofs.Table.Feeds

/-!
When the results of a batch have one line for each row. All that the program itself puts into them,
and all that it takes from the lines of a text, is free of line feeds; only the words in which the
service rejects a row need not be. A rejection with a line feed in it is quoted, so that readers of
quoted fields still find its record, but that record takes more than one line.
-/

namespace Enrolment

theorem feed_notMem_toString (n : Nat) : '\n' ∉ (toString n).toList := by
  intro hmem
  rw [Nat.toString_eq_repr, Nat.toList_repr] at hmem
  exact absurd (Nat.isDigit_of_mem_toDigits (by decide) (by decide) hmem) (by decide)

theorem Duration.feed_notMem_text (duration : Duration) : '\n' ∉ duration.text.toList := by
  have hdigit : ∀ n < 10, n.digitChar ≠ '\n' := by decide
  have hdecimals : ∀ places n, '\n' ∉ decimals places n := by
    intro places
    induction places with
    | zero => simp [decimals]
    | succ places ih =>
        intro n
        rw [decimals]
        split
        · simp
        · rw [List.mem_cons, not_or]
          exact ⟨(hdigit _ (Nat.mod_lt _ (by decide))).symm, ih _⟩
  have hunits : ∀ places n, '\n' ∉ (inUnits places n).toList := by
    intro places n
    have hpoint : '\n' ∉ ".".toList := by decide
    rw [inUnits]
    split
    · exact feed_notMem_toString _
    · simp only [String.toList_append, String.toList_ofList, List.mem_append, not_or]
      exact ⟨⟨feed_notMem_toString _, hpoint⟩, hdecimals _ _⟩
  rw [text]
  split
  · simpa using hunits 9 duration.nanoseconds
  · split
    · simpa using hunits 6 duration.nanoseconds
    · split
      · simpa using hunits 3 duration.nanoseconds
      · simpa using hunits 0 duration.nanoseconds

/-- Only a rejection is told in words of the service. -/
theorem feed_notMem_of_status? {resolution : Resolution} {timeout : Duration} {failure : Failure}
    (h : resolution.status? timeout = some (.failed failure)) (hkind : failure.kind ≠ .rejected) :
    '\n' ∉ failure.message.toList := by
  cases resolution with
  | timedOut =>
      obtain rfl := Status.failed.inj (Option.some.inj h)
      have hduration := timeout.feed_notMem_text
      simpa [Failure.ofTimeout] using hduration
  | ended ending =>
      cases ending with
      | created | crashed => cases h
      | unanswered cause =>
          obtain rfl := Status.failed.inj (Option.some.inj h)
          decide
      | rejected code message =>
          obtain rfl := Status.failed.inj (Option.some.inj h)
          exact absurd rfl hkind

theorem Record.feed_notMem_complaints (record : Record) :
    '\n' ∉ ("; ".intercalate record.complaints).toList := by
  rw [complaints]
  split <;> split <;> split <;> decide +kernel

/-- All that the results show of an entry fits into a line. -/
structure Entry.Fits (entry : Entry) : Prop where
  identifier : '\n' ∉ entry.record.identifier.toList
  role : '\n' ∉ entry.record.role.toList
  reasons : ∀ reasons, entry.verdict = .invalid reasons →
    '\n' ∉ ("; ".intercalate reasons).toList

namespace Batch
open Run

theorem fits_of_ofText {delimiter : Char} {text : String} {batch : Batch}
    (h : ofText delimiter text = .ok batch) : ∀ entry ∈ batch.entries, entry.Fits := by
  obtain ⟨header, _, _, rfl⟩ := ofText_eq_ok h
  intro entry hentry
  obtain ⟨record, hrecord, rfl⟩ := List.mem_map.1 hentry
  obtain ⟨line, hline, rfl⟩ := List.mem_map.1 hrecord
  have hcell := Sheet.feed_notMem_cellBelow delimiter header hline
  refine ⟨hcell .identifier, hcell .role, ?_⟩
  intro reasons hreasons
  rw [entryOf] at hreasons
  split at hreasons
  · cases hreasons
  · rw [← Verdict.invalid.inj hreasons]
    exact Record.feed_notMem_complaints _

/-- What the statuses of a batch say that was read from a text: nothing of rows that are not valid,
and words of the service only in rejections. -/
structure Plain (batch : Batch) : Prop where
  matched : batch.Matched
  entries : ∀ entry ∈ batch.entries, entry.Fits
  passed : ∀ row entry, batch.entries[row]? = some entry → entry.verdict ≠ .valid →
    batch.status? row = some .notSubmitted
  failures : ∀ row failure, batch.status? row = some (.failed failure) →
    failure.kind ≠ .rejected → '\n' ∉ failure.message.toList

theorem Plain.of_kept {batch : Batch} {plan : Plan} {o : Outline} (p : batch.Plain)
    (k : Kept batch plan o) (hmatched : (Batch.mk batch.entries o.ledger).Matched) :
    (Batch.mk batch.entries o.ledger).Plain where
  matched := hmatched
  entries := p.entries
  passed := by
    intro row entry hentry hinvalid
    have hclaim : row ∉ o.claims := by
      intro hclaim
      obtain ⟨own, hown, hvalid⟩ := k.entry_of_claim hclaim
      obtain rfl : entry = own := Option.some.inj (hentry.symm.trans hown)
      exact hinvalid hvalid
    exact (k.untouched row hclaim).trans (p.passed row entry hentry hinvalid)
  failures := by
    intro row failure hstatus hkind
    by_cases hclaim : row ∈ o.claims
    · have hfree : row ∉ o.held := by
        intro hheld
        cases (k.pending row hheld).symm.trans hstatus
      obtain ⟨n, call, _, _, hgiven⟩ := k.exists_call_of_claim hclaim hfree
      have houtcome := Option.some.inj (hgiven.symm.trans hstatus)
      rw [Plan.outcome] at houtcome
      cases hresult : (plan.resolution n call.record).status? plan.policy.timeout with
      | none =>
          rw [hresult] at houtcome
          cases houtcome
      | some status =>
          rw [hresult, Option.getD_some] at houtcome
          rw [houtcome] at hresult
          exact feed_notMem_of_status? hresult hkind
    · exact p.failures row failure ((k.untouched row hclaim).symm.trans hstatus) hkind

theorem Plain.of_mayBecome {batch after : Batch} {accounts : List Account} (p : batch.Plain)
    (h : batch.MayBecome accounts after) : after.Plain := by
  induction h with
  | fresh => exact p
  | run _ hrun ih =>
      obtain ⟨claims, m, hhistory, _, hleft⟩ := hrun
      rw [← (Prod.mk.inj hleft).1]
      exact ih.of_kept (kept_of_history hhistory) (ih.matched.leadsTo rfl hhistory.leadsTo)

theorem plain_of_ofText {delimiter : Char} {text : String} {batch : Batch}
    (h : ofText delimiter text = .ok batch) : batch.Plain := by
  have hfits := fits_of_ofText h
  obtain ⟨header, _, _, rfl⟩ := ofText_eq_ok h
  have hblank : ∀ row status,
      (ofEntries ((users delimiter header text).map entryOf)).status? row = some status →
        status = .notSubmitted := by
    intro row status hstatus
    rw [status?, ofEntries, Ledger.get?_blank] at hstatus
    split at hstatus
    · exact (Option.some.inj hstatus).symm
    · cases hstatus
  refine ⟨matched_ofEntries _, hfits, ?_, ?_⟩
  · intro row entry hentry _
    obtain ⟨status, hstatus⟩ := (matched_ofEntries _).exists_status hentry
    rw [hstatus, hblank row status hstatus]
  · intro row failure hstatus
    cases hblank row _ hstatus

end Batch

namespace Export
open Run

theorem feed_notMem_cells {row : RowStatus} (h : Entry.Fits ⟨row.record, row.verdict⟩)
    (hdetail : '\n' ∉ (detail row.verdict row.status).toList) :
    ∀ cell ∈ cells row, '\n' ∉ cell.toList := by
  have hnumber := feed_notMem_toString row.record.line
  have hvalidation : '\n' ∉ (validation row.verdict).toList := by
    cases row.verdict <;> simp [validation]
  have hstatus : '\n' ∉ row.status.name.toList := by
    cases row.status <;> simp [Status.name]
  have hidentifier := h.identifier
  have hrole := h.role
  intro cell hcell
  simp only [cells, List.mem_cons, List.not_mem_nil, or_false] at hcell
  rcases hcell with rfl | rfl | rfl | rfl | rfl | rfl <;> assumption

/-- The last cell of a row holds a line feed only if it tells of a rejection with one. -/
theorem feed_notMem_detail {batch : Batch} (p : batch.Plain) {row : Nat} {entry : Entry}
    {status : Status} (hentry : batch.entries[row]? = some entry)
    (hstatus : batch.status? row = some status)
    (h : ∀ failure, status = .failed failure → failure.kind = .rejected →
      '\n' ∉ failure.message.toList) : '\n' ∉ (detail entry.verdict status).toList := by
  cases hverdict : entry.verdict with
  | invalid reasons => exact (p.entries entry (List.mem_of_getElem? hentry)).reasons reasons hverdict
  | valid =>
      cases status with
      | notSubmitted | pending | succeeded => simp [detail]
      | failed failure =>
          by_cases hkind : failure.kind = .rejected
          · exact h failure rfl hkind
          · exact p.failures row failure hstatus hkind

/-- The results have a line for each row, in order and below one for the header, and each line by
itself is split into the cells that tell of its row. -/
structure LineForEachRow (delimiter : Char) (batch : Batch) (lines : List (List Char)) :
    Prop where
  consists : Sheet.ConsistsOf (batch.results delimiter) lines
  length : lines.length = batch.size + 1
  first : ∃ line, lines[0]? = some line ∧
    Line.split delimiter line = some (header.map String.toList)
  telling : ∀ row entry, batch.entries[row]? = some entry → ∃ status line cells,
    batch.status? row = some status ∧ lines[row + 1]? = some line ∧
      Line.split delimiter line = some (cells.map String.toList) ∧ Tells entry status cells

theorem lineForEachRow {delimiter : Char} (d : Sheet.Usable delimiter) {batch : Batch}
    (hmatched : batch.Matched) (hfeed : ∀ row ∈ batch.rows, ∀ cell ∈ cells row, '\n' ∉ cell.toList) :
    LineForEachRow delimiter batch
      ((header :: batch.rows.map cells).map fun row =>
        Line.write delimiter (row.map String.toList)) where
  consists := by
    apply Sheet.consistsOf_write d
    intro row hrow
    rcases List.mem_cons.1 hrow with rfl | hrow
    · decide
    · obtain ⟨shown, hshown, rfl⟩ := List.mem_map.1 hrow
      exact hfeed shown hshown
  length := by
    rw [List.length_map, List.length_cons, List.length_map, hmatched.length_rows]
  first := ⟨_, rfl, Line.split_write d.ne_quote _ _⟩
  telling := by
    intro row entry hentry
    obtain ⟨status, hstatus, hrow⟩ := hmatched.exists_row hentry
    refine ⟨status, _, _, hstatus, ?_, Line.split_write d.ne_quote _ _, tells_cells entry row status⟩
    rw [List.getElem?_map, List.getElem?_cons_succ, List.getElem?_map, hrow]
    rfl

/-- A batch that was read from a text, after any number of runs, whatever they were. For each
delimiter its results have a line for each row exactly if no row shows a rejection with a line feed
in it; where one does there are more lines than rows. -/
theorem line_for_each_row_iff {inputDelimiter delimiter : Char} {text : String}
    {batch after : Batch} {accounts : List Account}
    (htext : Batch.ofText inputDelimiter text = .ok batch)
    (hruns : batch.MayBecome accounts after)
    (hdelimiter : (InputSettings.mk delimiter).problem? = none) :
    ((∃ lines, LineForEachRow delimiter after lines) ↔
      ∀ row failure, after.status? row = some (.failed failure) → failure.kind = .rejected →
        '\n' ∉ failure.message.toList) ∧
    ∀ lines, Sheet.ConsistsOf (after.results delimiter) lines → after.size + 1 ≤ lines.length := by
  have p := (Batch.plain_of_ofText htext).of_mayBecome hruns
  have d := Sheet.usable_of_problem? hdelimiter
  have hlength : (header :: after.rows.map cells).length = after.size + 1 := by
    rw [List.length_cons, List.length_map, p.matched.length_rows]
  refine ⟨⟨?_, ?_⟩, ?_⟩
  · rintro ⟨lines, l⟩ row failure hstatus _
    have hcells := Sheet.feed_notMem_of_consistsOf d l.consists (l.length.trans hlength.symm)
    have hlt : row < after.entries.length := by
      rw [← show after.ledger.size = after.entries.length from p.matched]
      exact (List.getElem?_eq_some_iff.1 hstatus).1
    have hentry := List.getElem?_eq_getElem hlt
    have hvalid : after.entries[row].verdict = .valid := by
      by_contra hinvalid
      cases (p.passed row _ hentry hinvalid).symm.trans hstatus
    have hshown : ⟨row, after.entries[row].record, after.entries[row].verdict, .failed failure⟩ ∈
        after.rows := Batch.mem_rows_iff.2 ⟨_, hentry, hstatus, rfl, rfl⟩
    apply hcells _ (List.mem_cons_of_mem _ (List.mem_map_of_mem hshown))
    rw [cells, hvalid]
    simp [detail]
  · intro hfeed
    refine ⟨_, lineForEachRow d p.matched ?_⟩
    intro row hrow
    obtain ⟨entry, hentry, hstatus, hrecord, hverdict⟩ := Batch.mem_rows_iff.1 hrow
    apply feed_notMem_cells
    · rw [hrecord, hverdict]
      exact p.entries entry (List.mem_of_getElem? hentry)
    · rw [hverdict]
      exact feed_notMem_detail p hentry hstatus fun failure hfailed hkind =>
        hfeed row.index failure (hstatus.trans (congrArg some hfailed)) hkind
  · intro lines hlines
    rw [← hlines.count_feed, ← hlength]
    exact (Sheet.count_feed_write d _).1

/-- A table with one row. -/
def oneRow : String :=
  "identifier,role\nann@example.com,viewer\n"

def oneRowBatch : Batch :=
  .ofEntries [⟨⟨2, "ann@example.com", "viewer", none, none⟩, .valid⟩]

/-- Each call is rejected with the given message. -/
def rejectingPlan (message : String) : Plan where
  policy := .standard
  service := fun _ _ => .atOnce (.rejected (some 500) message)
  cancellation := .never
  watched := false

/-- A message with a comma, with quotes and with carriage returns takes one line still. -/
theorem line_for_each_row_of_returns :
    Batch.ofText ',' oneRow = .ok oneRowBatch ∧ (InputSettings.mk ',').problem? = none ∧
      (oneRowBatch.run (rejectingPlan "no,\r\"no\"\r")).1.results ',' =
        "line,identifier,role,validation,status,detail\n" ++
          "2,ann@example.com,viewer,valid,failed,\"no,\r\"\"no\"\"\r\"\n" ∧
      ∃ lines, LineForEachRow ',' (oneRowBatch.run (rejectingPlan "no,\r\"no\"\r")).1 lines := by
  have htext : Batch.ofText ',' oneRow = .ok oneRowBatch := by decide +kernel
  have hstatuses : (oneRowBatch.run (rejectingPlan "no,\r\"no\"\r")).1.statuses =
      [.failed ⟨.rejected, "no,\r\"no\"\r"⟩] := by decide +kernel
  have hruns := Batch.MayBecome.fresh.run (oneRowBatch.mayRun_run (rejectingPlan "no,\r\"no\"\r"))
  refine ⟨htext, rfl, by decide +kernel, (line_for_each_row_iff htext hruns rfl).1.2 ?_⟩
  intro row failure hstatus _
  obtain rfl : failure = ⟨.rejected, "no,\r\"no\"\r"⟩ := by
    have hmem := List.mem_of_getElem? hstatus
    rw [show (oneRowBatch.run _).1.ledger.statuses = _ from hstatuses, List.mem_singleton] at hmem
    exact Status.failed.inj hmem
  decide

/-- A message of two lines takes its row to a second line. -/
theorem not_line_for_each_row_of_feed :
    Batch.ofText ',' oneRow = .ok oneRowBatch ∧ (InputSettings.mk ',').problem? = none ∧
      (oneRowBatch.run (rejectingPlan "no\nway")).1.results ',' =
        "line,identifier,role,validation,status,detail\n" ++
          "2,ann@example.com,viewer,valid,failed,\"no\nway\"\n" ∧
      ¬∃ lines, LineForEachRow ',' (oneRowBatch.run (rejectingPlan "no\nway")).1 lines := by
  refine ⟨by decide +kernel, rfl, by decide +kernel, ?_⟩
  rintro ⟨lines, l⟩
  have hfeeds : ((oneRowBatch.run (rejectingPlan "no\nway")).1.results ',').toList.count '\n' =
      3 := by decide +kernel
  have hlength := l.length
  rw [← l.consists.count_feed, hfeeds] at hlength
  cases hlength

end Export
end Enrolment

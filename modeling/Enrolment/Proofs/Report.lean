import Enrolment.Proofs.Batch

/-!
What the figures of a report count. They go through rows and statuses side by side, and leave out
what has no counterpart; if the ledger has one status for each row, nothing is left out. Then each
figure is the number of valid rows of one kind, and the figures add up. As the ledger changes, no row
leaves a final status and none is opened again, so some figures only grow and others only shrink.
-/

namespace Enrolment

def Status.isFailed : Status → Bool
  | failed _ => true
  | _ => false

theorem Status.isFailed_iff {status : Status} :
    status.isFailed = true ↔ ∃ failure, status = failed failure := by
  cases status <;> simp [isFailed]

/-- Each pair of a row and its status adds to the figures that it is about. -/
theorem Report.foldl_count (pairs : List (Entry × Status)) (report : Report) :
    pairs.foldl (fun report (entry, status) => report.count entry.verdict status) report =
      { total := report.total
        valid := report.valid + pairs.countP fun pair => pair.1.verdict.isValid
        invalid := report.invalid + pairs.countP fun pair => !pair.1.verdict.isValid
        succeeded := report.succeeded +
          pairs.countP fun pair => pair.1.verdict.isValid && decide (pair.2 = .succeeded)
        failed := report.failed +
          pairs.countP fun pair => pair.1.verdict.isValid && pair.2.isFailed
        pending := report.pending +
          pairs.countP fun pair => pair.1.verdict.isValid && decide (pair.2 = .pending)
        notSubmitted := report.notSubmitted +
          pairs.countP fun pair => pair.1.verdict.isValid && decide (pair.2 = .notSubmitted) } := by
  have hvalid : Verdict.valid.isValid = true := rfl
  have hinvalid : ∀ reasons, (Verdict.invalid reasons).isValid = false := fun _ => rfl
  induction pairs generalizing report with
  | nil => rfl
  | cons pair pairs ih =>
      obtain ⟨⟨record, verdict⟩, status⟩ := pair
      rw [List.foldl_cons, ih]
      cases verdict with
      | invalid reasons => simp [count, hinvalid, Nat.add_assoc, Nat.add_comm 1]
      | valid =>
          cases status <;>
            simp [count, hvalid, Status.isFailed, Nat.add_assoc, Nat.add_comm 1]

namespace Batch

/-- There is one status for each row. -/
def Matched (batch : Batch) : Prop :=
  batch.ledger.size = batch.size

theorem matched_ofEntries (entries : List Entry) : (ofEntries entries).Matched :=
  List.length_replicate

/-- How many valid rows are in a status of the given kind. -/
def countIn (batch : Batch) (kind : Status → Bool) : Nat :=
  batch.rows.countP fun row => row.verdict.isValid && kind row.status

/-- The rows of a batch by position. -/
theorem getElem?_rows (batch : Batch) (row : Nat) :
    batch.rows[row]? = (batch.entries[row]?).bind fun entry =>
      (batch.status? row).map fun status => ⟨row, entry.record, entry.verdict, status⟩ := by
  rw [rows, List.getElem?_map, List.getElem?_zipIdx, List.zip_eq_zipWith, List.getElem?_zipWith,
    show batch.status? row = batch.statuses[row]? from rfl]
  cases batch.entries[row]? with
  | none => rfl
  | some entry =>
      cases batch.statuses[row]? with
      | none => rfl
      | some status => simp

theorem countP_rows (batch : Batch) (kind : Verdict → Status → Bool) :
    (batch.rows.countP fun row => kind row.verdict row.status) =
      (batch.entries.zip batch.statuses).countP fun pair => kind pair.1.verdict pair.2 := by
  rw [rows, List.countP_map]
  conv_rhs => rw [← List.zipIdx_map_fst 0 (batch.entries.zip batch.statuses), List.countP_map]
  rfl

theorem report_eq (batch : Batch) : batch.report =
    { total := batch.size
      valid := batch.rows.countP fun row => row.verdict.isValid
      invalid := batch.rows.countP fun row => !row.verdict.isValid
      succeeded := batch.countIn (· = .succeeded)
      failed := batch.countIn Status.isFailed
      pending := batch.countIn (· = .pending)
      notSubmitted := batch.countIn (· = .notSubmitted) } := by
  have hvalid := batch.countP_rows fun verdict _ => verdict.isValid
  have hinvalid := batch.countP_rows fun verdict _ => !verdict.isValid
  have hkind : ∀ kind, batch.countIn kind = (batch.entries.zip batch.statuses).countP
      fun pair => pair.1.verdict.isValid && kind pair.2 :=
    fun kind => batch.countP_rows fun verdict status => verdict.isValid && kind status
  simp only [hkind, hvalid, hinvalid]
  simp [report, Report.summarize, Report.foldl_count, size]

theorem countP_valid_rows (batch : Batch) :
    (batch.rows.countP fun row => row.verdict.isValid) =
      batch.countIn (· = .succeeded) + batch.countIn Status.isFailed +
        batch.countIn (· = .pending) + batch.countIn (· = .notSubmitted) := by
  simp only [countIn]
  induction batch.rows with
  | nil => rfl
  | cons row rows ih =>
      simp only [List.countP_cons, ih]
      cases row.verdict.isValid with
      | false => simp
      | true => cases row.status <;> simp [Status.isFailed] <;> omega

section
variable {batch : Batch}

theorem Matched.exists_status (h : batch.Matched) {row : Nat} {entry : Entry}
    (hentry : batch.entries[row]? = some entry) : ∃ status, batch.status? row = some status := by
  have hlt : row < batch.ledger.statuses.length := by
    rw [show batch.ledger.statuses.length = batch.entries.length from h]
    exact (List.getElem?_eq_some_iff.1 hentry).1
  exact ⟨_, List.getElem?_eq_getElem hlt⟩

theorem Matched.exists_row (h : batch.Matched) {row : Nat} {entry : Entry}
    (hentry : batch.entries[row]? = some entry) :
    ∃ status, batch.status? row = some status ∧
      batch.rows[row]? = some ⟨row, entry.record, entry.verdict, status⟩ := by
  obtain ⟨status, hstatus⟩ := h.exists_status hentry
  refine ⟨status, hstatus, ?_⟩
  rw [getElem?_rows, hentry, hstatus]
  rfl

theorem Matched.length_rows (h : batch.Matched) : batch.rows.length = batch.size := by
  rw [rows, List.length_map, List.length_zipIdx, List.length_zip,
    show batch.statuses.length = batch.size from h]
  exact Nat.min_self _

/-- No row is left out of the rows that a batch shows. -/
theorem Matched.countP_rows_eq (h : batch.Matched) (kind : Verdict → Option Status → Bool) :
    (batch.rows.countP fun row => kind row.verdict (some row.status)) =
      batch.entries.zipIdx.countP fun entry => kind entry.1.verdict (batch.status? entry.2) := by
  have hrows : (batch.rows.map fun row => (row.verdict, some row.status)) =
      batch.entries.zipIdx.map fun entry => (entry.1.verdict, batch.status? entry.2) := by
    apply List.ext_getElem?
    intro row
    rw [List.getElem?_map, List.getElem?_map, getElem?_rows, List.getElem?_zipIdx]
    cases hentry : batch.entries[row]? with
    | none => rfl
    | some entry =>
        obtain ⟨status, hstatus⟩ := h.exists_status hentry
        simp [hstatus]
  have hcount := congrArg (List.countP fun pair => kind pair.1 pair.2) hrows
  rwa [List.countP_map, List.countP_map] at hcount

theorem Matched.countIn_eq (h : batch.Matched) (kind : Status → Bool) :
    batch.countIn kind = batch.entries.zipIdx.countP fun entry =>
      entry.1.verdict.isValid && (batch.status? entry.2).any kind :=
  h.countP_rows_eq fun verdict status => verdict.isValid && status.any kind

theorem Matched.countP_valid_eq (h : batch.Matched) :
    (batch.rows.countP fun row => row.verdict.isValid) = batch.validCount := by
  rw [h.countP_rows_eq fun verdict _ => verdict.isValid, validCount, validIndices,
    ← List.countP_true, List.countP_filterMap]
  congr 1
  funext entry
  cases hvalid : entry.1.verdict.isValid <;> simp [hvalid]

theorem Matched.countP_invalid_eq (h : batch.Matched) :
    (batch.rows.countP fun row => !row.verdict.isValid) = batch.size - batch.validCount := by
  have hsplit := List.length_eq_countP_add_countP (fun row : RowStatus => row.verdict.isValid)
    (l := batch.rows)
  simp only [Bool.not_eq_true, Bool.decide_eq_false] at hsplit
  rw [h.length_rows, h.countP_valid_eq] at hsplit
  omega

theorem Matched.validCount_le (h : batch.Matched) : batch.validCount ≤ batch.size := by
  rw [← h.countP_valid_eq, ← h.length_rows]
  exact List.countP_le_length

/-- There are no fewer rows of a kind if all that are of that kind keep their status. -/
theorem Matched.countIn_le {after : Batch} {kind : Status → Bool} (hbefore : batch.Matched)
    (hafter : after.Matched) (hentries : after.entries = batch.entries)
    (h : ∀ row status, batch.status? row = some status → kind status = true →
      after.status? row = some status) : batch.countIn kind ≤ after.countIn kind := by
  rw [hbefore.countIn_eq, hafter.countIn_eq, hentries]
  apply List.countP_mono_left
  rintro ⟨entry, row⟩ _ hkind
  rw [Bool.and_eq_true] at hkind ⊢
  refine ⟨hkind.1, ?_⟩
  cases hstatus : batch.status? row with
  | none => simp [hstatus] at hkind
  | some status =>
      have hkind : kind status = true := by simpa [hstatus] using hkind.2
      rw [h row status hstatus hkind]
      exact hkind

end

end Batch

/-- The figures are right for the rows that the batch shows, and no row is left out. -/
structure Report.Accounts (report : Report) (batch : Batch) : Prop where
  matched : batch.Matched
  shown : ∀ row entry, batch.entries[row]? = some entry →
    ∃ status, batch.status? row = some status ∧
      batch.rows[row]? = some ⟨row, entry.record, entry.verdict, status⟩
  length_rows : batch.rows.length = batch.size
  total : report.total = batch.size
  valid : report.valid = batch.validCount
  split : report.valid + report.invalid = report.total
  sum : report.succeeded + report.failed + report.pending + report.notSubmitted = report.valid
  succeeded : report.succeeded = batch.countIn (· = .succeeded)
  failed : report.failed = batch.countIn Status.isFailed
  pending : report.pending = batch.countIn (· = .pending)
  notSubmitted : report.notSubmitted = batch.countIn (· = .notSubmitted)
  untouched : ∀ row ∈ batch.rows, row.verdict ≠ .valid → row.status = .notSubmitted
  settled : report.isSettled = true ↔
    ∀ row ∈ batch.rows, row.verdict = .valid → row.status.isTerminal = true

/-- What a later report of the same batch may differ in. -/
structure Report.Advances (before after : Report) : Prop where
  total : after.total = before.total
  valid : after.valid = before.valid
  invalid : after.invalid = before.invalid
  succeeded : before.succeeded ≤ after.succeeded
  failed : before.failed ≤ after.failed
  notSubmitted : after.notSubmitted ≤ before.notSubmitted

namespace Batch

section
variable {batch : Batch}

theorem mem_rows_iff {row : RowStatus} : row ∈ batch.rows ↔
    ∃ entry, batch.entries[row.index]? = some entry ∧
      batch.status? row.index = some row.status ∧ row.record = entry.record ∧
      row.verdict = entry.verdict := by
  rw [List.mem_iff_getElem?]
  simp only [getElem?_rows, Option.bind_eq_some_iff, Option.map_eq_some_iff]
  constructor
  · rintro ⟨index, entry, hentry, status, hstatus, rfl⟩
    exact ⟨entry, hentry, hstatus, rfl, rfl⟩
  · rintro ⟨entry, hentry, hstatus, hrecord, hverdict⟩
    refine ⟨row.index, entry, hentry, row.status, hstatus, ?_⟩
    rw [← hrecord, ← hverdict]

theorem isSettled_iff : batch.report.isSettled = true ↔
    ∀ row ∈ batch.rows, row.verdict = .valid → row.status.isTerminal = true := by
  have hkind : ∀ verdict : Verdict, ∀ status : Status,
      (¬(verdict.isValid = true ∧ status = .pending) ∧
        ¬(verdict.isValid = true ∧ status = .notSubmitted)) ↔
      (verdict = .valid → status.isTerminal = true) := by
    intro verdict status
    cases verdict <;> cases status <;> simp [Verdict.isValid, Status.isTerminal]
  simp only [report_eq, Report.isSettled, countIn, Bool.and_eq_true, decide_eq_true_eq,
    List.countP_eq_zero, ← forall₂_and, hkind]

theorem Matched.accounts (h : batch.Matched)
    (huntouched : ∀ row entry, batch.entries[row]? = some entry → entry.verdict ≠ .valid →
      batch.status? row = some .notSubmitted) : batch.report.Accounts batch where
  matched := h
  shown := fun _ _ => h.exists_row
  length_rows := h.length_rows
  total := by rw [report_eq]
  valid := by rw [report_eq, ← h.countP_valid_eq]
  split := by
    rw [report_eq, h.countP_valid_eq, h.countP_invalid_eq]
    exact Nat.add_sub_cancel' h.validCount_le
  sum := by rw [report_eq, countP_valid_rows]
  succeeded := by rw [report_eq]
  failed := by rw [report_eq]
  pending := by rw [report_eq]
  notSubmitted := by rw [report_eq]
  untouched := by
    intro row hrow hinvalid
    obtain ⟨entry, hentry, hstatus, _, hverdict⟩ := mem_rows_iff.1 hrow
    rw [hverdict] at hinvalid
    exact Option.some.inj (hstatus.symm.trans (huntouched row.index entry hentry hinvalid))
  settled := isSettled_iff

section
variable {after : Batch} (h : batch.Matched) (hentries : after.entries = batch.entries)
  (hledger : batch.ledger.LeadsTo after.ledger)
include h hentries hledger

theorem Matched.leadsTo : after.Matched := by
  rw [Matched, hledger.size_eq, h, size, size, hentries]

theorem Matched.countIn_le_of_terminal {kind : Status → Bool}
    (hkind : ∀ status, kind status = true → status.isTerminal = true) :
    batch.countIn kind ≤ after.countIn kind := by
  apply h.countIn_le (h.leadsTo hentries hledger) hentries
  intro row status hstatus hof
  exact hledger.get?_of_terminal hstatus (hkind status hof)

theorem Matched.countIn_open_le :
    after.countIn (· = .notSubmitted) ≤ batch.countIn (· = .notSubmitted) := by
  apply (h.leadsTo hentries hledger).countIn_le h hentries.symm
  intro row status hstatus hof
  obtain rfl : status = .notSubmitted := of_decide_eq_true hof
  exact hledger.get?_of_open hstatus

/-- Changes of the ledger bring the report forward. -/
theorem Matched.advances : batch.report.Advances after.report := by
  have hafter := h.leadsTo hentries hledger
  have hsize : after.size = batch.size := by rw [size, size, hentries]
  have hvalid : after.validCount = batch.validCount := by
    rw [validCount, validCount, validIndices, validIndices, hentries]
  have hsucceeded : batch.countIn (· = .succeeded) ≤ after.countIn (· = .succeeded) := by
    apply h.countIn_le_of_terminal hentries hledger
    intro status hof
    obtain rfl : status = .succeeded := of_decide_eq_true hof
    rfl
  have hfailed : batch.countIn Status.isFailed ≤ after.countIn Status.isFailed := by
    apply h.countIn_le_of_terminal hentries hledger
    intro status hof
    obtain ⟨failure, rfl⟩ := Status.isFailed_iff.1 hof
    rfl
  rw [report_eq, report_eq, h.countP_valid_eq, h.countP_invalid_eq, hafter.countP_valid_eq,
    hafter.countP_invalid_eq, hsize, hvalid]
  exact ⟨rfl, rfl, rfl, hsucceeded, hfailed, h.countIn_open_le hentries hledger⟩

end

end

end Batch
end Enrolment

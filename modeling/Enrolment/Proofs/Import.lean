import Enrolment.Proofs.Run.Independence
import Enrolment.Proofs.Run.Once
import Enrolment.Proofs.Table.DataLines

/-!
From a text to calls. A run of a fresh batch calls for just those data lines of the text that name a
user by an address and give it a role, in the order of the text and once each, with what the line
says; the other data lines are kept with all that is wrong with them.
-/

namespace Enrolment

/-- The user that a data line asks for. -/
def Record.ofLine (delimiter : Char) (header : List (List Char)) (line : List Char × Nat) :
    Record :=
  let cell := Sheet.cellBelow delimiter header line.1
  { line := line.2
    identifier := cell .identifier
    role := cell .role
    groupRef := if cell .groupRef = "" then none else some (cell .groupRef)
    metadata := if cell .metadata = "" then none else some (cell .metadata) }

namespace Record

theorem ofRow_rowOf (delimiter : Char) (header : List (List Char)) (line : List Char × Nat) :
    ofRow (Sheet.rowOf delimiter header line) = ofLine delimiter header line := by
  simp only [ofRow, ofLine, Sheet.field_rowOf, optionalCell]
  rfl

/-- A user with an address and a role. -/
def Acceptable (record : Record) : Prop :=
  '@' ∈ record.identifier.toList ∧ record.role ≠ ""

instance (record : Record) : Decidable record.Acceptable :=
  inferInstanceAs (Decidable (_ ∧ _))

/-- All that is wrong with a record, in words. -/
def complaints (record : Record) : List String :=
  (if record.identifier = "" then ["identifier required"] else []) ++
    (if record.role = "" then ["role required"] else []) ++
    if record.identifier ≠ "" ∧ '@' ∉ record.identifier.toList then
      ["identifier must be an email address"] else []

section
variable (record : Record)

theorem faults_map_reason : record.faults.map Rule.reason = record.complaints := by
  by_cases hidentifier : record.identifier = "" <;> by_cases hrole : record.role = "" <;>
    by_cases haddress : '@' ∈ record.identifier.toList <;>
    simp [faults, Rule.all, Rule.broken, Rule.reason, complaints, hidentifier, hrole, haddress]

theorem complaints_eq_nil_iff : record.complaints = [] ↔ record.Acceptable := by
  have hempty : record.identifier = "" → '@' ∉ record.identifier.toList := by
    intro h
    rw [h]
    simp
  simp only [complaints, Acceptable, List.append_eq_nil_iff, ite_eq_right_iff,
    List.cons_ne_nil, imp_false, not_and, not_not]
  constructor
  · rintro ⟨⟨hidentifier, hrole⟩, haddress⟩
    exact ⟨haddress hidentifier, hrole⟩
  · rintro ⟨haddress, hrole⟩
    exact ⟨⟨fun h => hempty h haddress, hrole⟩, fun _ => haddress⟩

theorem nodup_complaints : record.complaints.Nodup := by
  rw [complaints]
  split <;> split <;> split <;> decide

theorem check_eq : record.check =
    if record.Acceptable then .valid else .invalid record.complaints := by
  have hnil := record.complaints_eq_nil_iff
  rw [← faults_map_reason, List.map_eq_nil_iff] at hnil
  rw [check]
  split
  · next hfaults => rw [if_pos (hnil.1 hfaults)]
  · next hfaults => rw [if_neg fun h => hfaults (hnil.2 h), faults_map_reason]

end

end Record

namespace Batch
open Run

/-- The users that the data lines of a text ask for. -/
def users (delimiter : Char) (header : List (List Char)) (text : String) : List Record :=
  (Sheet.dataLines text).map (Record.ofLine delimiter header)

/-- The row that a record makes. -/
def entryOf (record : Record) : Entry :=
  ⟨record, if record.Acceptable then .valid else .invalid record.complaints⟩

theorem ofText_eq_ok {delimiter : Char} {text : String} {batch : Batch}
    (h : ofText delimiter text = .ok batch) :
    ∃ header, Sheet.header? delimiter text = some header ∧
      (∀ line ∈ Sheet.dataLines text, (Line.split delimiter line.1).isSome = true) ∧
      batch = .ofEntries ((users delimiter header text).map entryOf) := by
  rw [ofText] at h
  cases hrows : Sheet.decode delimiter text with
  | error error =>
      rw [hrows] at h
      cases h
  | ok rows =>
      rw [hrows] at h
      obtain ⟨header, hheader, hsplit, rfl⟩ := Sheet.decode_eq_map_rowOf hrows
      refine ⟨header, hheader, hsplit, ?_⟩
      rw [← Except.ok.inj h]
      simp only [judge, users, List.map_map]
      congr 1
      apply List.map_congr_left
      intro line _
      simp [Record.ofRow_rowOf, Record.check_eq, entryOf]

/-- The records of the valid rows, found by their positions. -/
theorem map_validIndices (batch : Batch) :
    (batch.validIndices.map fun row => (batch.entries[row]?).map Entry.record) =
      batch.validRecords.map some := by
  have hpositions : ∀ entry ∈ batch.entries.zipIdx,
      (if entry.1.verdict.isValid then some entry.2 else none).map
          (fun row => (batch.entries[row]?).map Entry.record) =
        if entry.1.verdict.isValid then some (some entry.1.record) else none := by
    intro entry hentry
    split
    · simp [List.mem_zipIdx_iff_getElem?.1 hentry]
    · rfl
  rw [validIndices, validRecords, List.map_filterMap, List.filterMap_congr hpositions]
  rw [← List.filterMap_eq_filter, List.map_filterMap, List.map_filterMap]
  conv_rhs => rw [← List.zipIdx_map_fst 0 batch.entries, List.filterMap_map]
  apply List.filterMap_congr
  intro entry _
  cases h : entry.1.verdict.isValid <;> simp [h, Option.guard]

theorem eligible_ofEntries (entries : List Entry) :
    (ofEntries entries).eligible = (ofEntries entries).validIndices := by
  rw [eligible, List.filter_eq_self]
  intro row hrow
  obtain ⟨entry, hentry, _⟩ := mem_validIndices_iff.1 hrow
  rw [isOpen_iff]
  have hlt : row < entries.length := (List.getElem?_eq_some_iff.1 hentry).1
  change (Ledger.blank entries.length).get? row = _
  rw [Ledger.get?_blank, if_pos hlt]

theorem validRecords_map_entryOf (records : List Record) :
    (ofEntries (records.map entryOf)).validRecords =
      records.filter (fun record => record.Acceptable) := by
  have hvalid : ∀ record, (entryOf record).verdict.isValid = decide record.Acceptable := by
    intro record
    rw [entryOf]
    split
    · next h => simp [Verdict.isValid, h]
    · next h => simp [Verdict.isValid, h]
  simp only [validRecords, ofEntries, List.filter_map, List.map_map, Function.comp_def, hvalid]
  exact List.map_id _

theorem pairwise_lt_users (delimiter : Char) (header : List (List Char)) (text : String) :
    (users delimiter header text).Pairwise fun earlier later => earlier.line < later.line :=
  List.pairwise_map.2 (Sheet.pairwise_lt_dataLines text)

/-- The calls of a run that nobody cancels are for all rows that were open. -/
theorem MayRun.map_record {batch after : Batch} {plan : Plan} {account : Account}
    (h : batch.MayRun plan after account) (hplan : plan.NeverCrashes)
    (hopen : account.cancelled = false) :
    (account.calls.map Call.record).map some =
      batch.eligible.map fun row => (batch.entries[row]?).map Entry.record := by
  obtain ⟨claims, m, hhistory, hover, hleft⟩ := h
  obtain ⟨rfl, rfl⟩ := Prod.mk.inj hleft
  have f := finished_of_over hplan hhistory hover
  have hcancelled : m.progress.cancelled = false := (Bool.or_eq_false_iff.1 hopen).1
  rw [← f.all_of_open hcancelled, f.claims_eq, List.map_map, List.map_map]
  apply List.map_congr_left
  intro call hcall
  obtain ⟨entry, hentry, hrecord⟩ := f.kept.records call hcall
  simp [hentry, hrecord]

/-- A text that can be read, and a run of its batch that nobody cancels and that no call takes down.
Each data line of the text is a row of the batch. The run calls for those of the users they ask for
that have an address and a role, as their lines say, in the order of the lines. Any other row is kept
as it was, with all that is wrong with its record: something is, in the order of the rules and each
thing once. -/
theorem calls_are_the_acceptable_lines {delimiter : Char} {text : String} {batch after : Batch}
    {plan : Plan} {account : Account} (htext : ofText delimiter text = .ok batch)
    (hplan : plan.NeverCrashes) (hrun : batch.MayRun plan after account)
    (hopen : account.cancelled = false) :
    ∃ header, Sheet.header? delimiter text = some header ∧
      (∀ line ∈ Sheet.dataLines text, (Line.split delimiter line.1).isSome = true) ∧
      account.calls.map Call.record =
        (users delimiter header text).filter (fun record => record.Acceptable) ∧
      (account.calls.map fun call => call.record.line).Pairwise (· < ·) ∧
      after.entries.map Entry.record = users delimiter header text ∧
      ∀ row record, (users delimiter header text)[row]? = some record → ¬record.Acceptable →
        after.status? row = some .notSubmitted ∧
        after.entries[row]? = some ⟨record, .invalid record.complaints⟩ ∧
        record.complaints ≠ [] ∧ record.complaints.Nodup := by
  obtain ⟨header, hheader, hsplit, rfl⟩ := ofText_eq_ok htext
  have hcalls : account.calls.map Call.record =
      (users delimiter header text).filter (fun record => record.Acceptable) := by
    have hrecords := hrun.map_record hplan hopen
    rw [eligible_ofEntries, map_validIndices, validRecords_map_entryOf] at hrecords
    exact List.map_injective_iff.2 (Option.some_injective Record) hrecords
  have hsettled := (hrun.settled hplan hopen).1
  refine ⟨header, hheader, hsplit, hcalls, ?_, ?_, ?_⟩
  · have hlines : account.calls.map (fun call => call.record.line) =
        (account.calls.map Call.record).map Record.line := by
      rw [List.map_map]
      rfl
    rw [hlines, hcalls]
    exact List.pairwise_map.2 ((pairwise_lt_users delimiter header text).filter _)
  · rw [hsettled.entries_eq, ofEntries, List.map_map]
    exact List.map_id _
  · intro row record hrecord hrefused
    have hentry : (ofEntries ((users delimiter header text).map entryOf)).entries[row]? =
        some ⟨record, .invalid record.complaints⟩ := by
      simp [ofEntries, hrecord, entryOf, hrefused]
    have hclosed : row ∉ (ofEntries ((users delimiter header text).map entryOf)).eligible := by
      intro hrow
      obtain ⟨entry, hvalid, hverdict⟩ := mem_validIndices_iff.1 (List.mem_filter.1 hrow).1
      rw [hentry] at hvalid
      rw [← Option.some.inj hvalid] at hverdict
      cases hverdict
    refine ⟨?_, by rw [hsettled.entries_eq, hentry], ?_, record.nodup_complaints⟩
    · rw [hsettled.kept row hclosed]
      exact (Ledger.get?_blank _ row).trans (if_pos (List.getElem?_eq_some_iff.1 hentry).1)
    · rw [ne_eq, Record.complaints_eq_nil_iff]
      exact hrefused

/-- Columns in another order, a byte order mark, carriage returns, a blank line, a short line and
quoted cells. -/
def mixedTable : String :=
  "\ufeffTeams, ROLE ,note,Email\r\ncore,viewer,,ann@example.com\r\n \r\n,,x,bob\n" ++
    "\"a, b\" ,\" viewer\",\"\", \"cyd@example.com\" \n\"core\""

def mixedBatch : Batch :=
  ((ofText ',' mixedTable).toOption).getD empty

/-- Lines 2 and 5 are called for, lines 4 and 6 are kept with what is wrong with them. -/
theorem calls_are_the_acceptable_lines_of_mixed :
    ofText ',' mixedTable = .ok mixedBatch ∧ calmPlan.NeverCrashes ∧
      (mixedBatch.run calmPlan).2.cancelled = false ∧
      (mixedBatch.run calmPlan).2.calls.map Call.record =
        [⟨2, "ann@example.com", "viewer", some "core", none⟩,
          ⟨5, "cyd@example.com", " viewer", some "a, b", none⟩] ∧
      (mixedBatch.run calmPlan).1.entries[1]? = some ⟨⟨4, "bob", "", none, none⟩,
        .invalid ["role required", "identifier must be an email address"]⟩ ∧
      (mixedBatch.run calmPlan).1.status? 3 = some .notSubmitted := by
  have htext : ofText ',' mixedTable = .ok mixedBatch := by decide +kernel
  have hcalm : calmPlan.NeverCrashes := by
    intro number record h
    cases h
  have hopen : (mixedBatch.run calmPlan).2.cancelled = false := by decide +kernel
  have hnames : Sheet.header? ',' mixedTable =
      some (["Teams", "ROLE", "note", "Email"].map String.toList) := by decide +kernel
  obtain ⟨header, hheader, _, hcalls, _, _, hkept⟩ :=
    calls_are_the_acceptable_lines htext hcalm (mixedBatch.mayRun_run calmPlan) hopen
  obtain rfl := Option.some.inj (hheader.symm.trans hnames)
  refine ⟨htext, hcalm, hopen, hcalls.trans (by decide +kernel), ?_, ?_⟩
  · exact (hkept 1 ⟨4, "bob", "", none, none⟩ (by decide +kernel) (by decide +kernel)).2.1
  · exact (hkept 3 ⟨6, "", "", some "core", none⟩ (by decide +kernel) (by decide +kernel)).1

end Batch
end Enrolment

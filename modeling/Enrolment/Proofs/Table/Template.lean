import Enrolment.Batch
import Enrolment.Proofs.Table.Columns

/-!
The template can be imported as it is, whichever delimiter it was written with. What the delimiter
occurs in, be it a name of the header, the address or the metadata, is quoted and reads back.
-/

namespace Enrolment
namespace Sheet

theorem problem?_eq_none_iff {delimiter : Char} :
    (InputSettings.mk delimiter).problem? = none ↔
      delimiter ≠ '"' ∧ delimiter ≠ '\n' ∧ delimiter ≠ '\r' := by
  constructor
  · intro h
    have d := usable_of_problem? h
    exact ⟨d.ne_quote, d.ne_feed, d.ne_return⟩
  · rintro ⟨hquote, hfeed, hreturn⟩
    rw [InputSettings.problem?, if_neg hquote, if_neg (not_or.2 ⟨hfeed, hreturn⟩)]

theorem heading_template : Heading templateHeader where
  feed_notMem := by decide +kernel
  unmarked := by decide +kernel
  identifier := ⟨"user_email", by decide, by decide +kernel⟩
  role := ⟨"user_role", by decide, by decide +kernel⟩

/-- The example row is arranged as it stands: the header has the columns in canonical order. -/
theorem arrange_template :
    arrange (templateHeader.map String.toList) (templateRow.map String.toList) = templateRow := by
  decide +kernel

theorem decode_template {delimiter : Char} (d : Usable delimiter) :
    decode delimiter (template delimiter) = .ok [⟨2, templateRow⟩] := by
  have hshown : ∀ row ∈ [templateRow], Shown delimiter row := by
    intro row hrow
    rw [List.mem_singleton.1 hrow]
    exact shown_of_first (by decide) (by decide +kernel)
  rw [template, decode_write_shown d heading_template (fun _ => by decide) hshown]
  simp [arrange_template]

/-- Every delimiter that settings may name writes a template that holds one row, on its second line,
and that row is valid. -/
theorem template_imports (delimiter : Char) :
    ((InputSettings.mk delimiter).problem? = none ↔
      delimiter ≠ '"' ∧ delimiter ≠ '\n' ∧ delimiter ≠ '\r') ∧
    ((InputSettings.mk delimiter).problem? = none →
      Batch.ofText delimiter (template delimiter) = .ok (.ofEntries [{
        record := {
          line := 2
          identifier := "john.doe@example.com"
          role := "internal_user"
          groupRef := some "team-alpha"
          metadata := some "\x7b\"department\": \"engineering\"\x7d" }
        verdict := .valid }])) := by
  refine ⟨problem?_eq_none_iff, fun h => ?_⟩
  rw [Batch.ofText, decode_template (usable_of_problem? h)]
  rfl

/-- With a letter between the cells, only cells without that letter stand bare. -/
theorem template_imports_of_letter :
    (InputSettings.mk 'o').problem? = none ∧
      template 'o' = "user_emailo\"user_role\"oteamsometadata\n\"john.doe@example.com\"" ++
        "ointernal_useroteam-alphao\"\x7b\"\"department\"\": \"\"engineering\"\"\x7d\"\n" ∧
      (Batch.ofText 'o' (template 'o')).map Batch.validRecords = .ok [{
        line := 2
        identifier := "john.doe@example.com"
        role := "internal_user"
        groupRef := some "team-alpha"
        metadata := some "\x7b\"department\": \"engineering\"\x7d" }] := by
  refine ⟨rfl, by decide +kernel, ?_⟩
  rw [(template_imports 'o').2 rfl]
  rfl

end Sheet
end Enrolment

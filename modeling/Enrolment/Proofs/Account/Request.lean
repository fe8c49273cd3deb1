import Enrolment.Account.Request
import Enrolment.Proofs.Json.Canonical

/-!
The body of a request carries its record. Read back, it is an object with one member for each field
that the record has, and each member says what the field says: none of the texts in the record can
get out of its own string.
-/

namespace Enrolment
namespace NewUser

open Json

/-- What metadata is sent as: its value if it is JSON, in which the last of several members with
one key counts, and a string if it is no JSON or is nested too deeply. -/
inductive SentAs (text : String) : Value → Prop
  | json {tree : Json.Tree} {written value : Value} (hspells : Spells text tree written)
      (hdepth : tree.depth ≤ 127) (hsettles : written.Settles value) : SentAs text value
  | string (h : ∀ tree written, Spells text tree written → 127 < tree.depth) :
      SentAs text (.string text)

theorem metadataValue_cases (text : String) :
    (∃ tree written, Spells text tree written ∧ tree.depth ≤ 127 ∧
      metadataValue text = written.canonical) ∨
    (∀ tree written, Spells text tree written → 127 < tree.depth) ∧
      metadataValue text = .string text := by
  rw [metadataValue]
  cases hread : Value.read text with
  | some value =>
      obtain ⟨tree, written, hspells, hdepth, heq⟩ := read_eq_some_iff.1 hread
      exact .inl ⟨tree, written, hspells, hdepth, heq.symm⟩
  | none =>
      refine .inr ⟨fun tree written hspells => Nat.not_le.1 fun hdepth => ?_, rfl⟩
      rw [read_eq_some_iff.2 ⟨tree, written, hspells, hdepth, rfl⟩] at hread
      cases hread

theorem sentAs_iff {text : String} {value : Value} :
    SentAs text value ↔ metadataValue text = value := by
  constructor
  · intro h
    rcases metadataValue_cases text with ⟨tree, written, hspells, hdepth, heq⟩ | ⟨hdeep, heq⟩
    · cases h with
      | json hspells' _ hsettles =>
          rw [heq, hspells.unique hspells']
          exact Value.settles_iff.1 hsettles
      | string hdeep => exact absurd (hdeep tree written hspells) (Nat.not_lt.2 hdepth)
    · cases h with
      | json hspells' hdepth => exact absurd (hdeep _ _ hspells') (Nat.not_lt.2 hdepth)
      | string => exact heq
  · rintro rfl
    rcases metadataValue_cases text with ⟨tree, written, hspells, hdepth, heq⟩ | ⟨hdeep, heq⟩
    · rw [heq]
      exact .json hspells hdepth (Value.settles_canonical written)
    · rw [heq]
      exact .string hdeep

/-- Metadata is sent with numbers that it is written with. -/
theorem exists_spells_of_mem_numbers {text : String} {n : Number}
    (h : n ∈ (metadataValue text).numbers) :
    ∃ tree written, Spells text tree written ∧ n ∈ written.numbers := by
  rcases metadataValue_cases text with ⟨tree, written, hspells, _, heq⟩ | ⟨_, heq⟩
  · rw [heq] at h
    exact ⟨tree, written, hspells, Value.numbers_canonical written h⟩
  · rw [heq] at h
    cases h

section
variable {record : Record} {sendInvite : Bool}

/-- No field but the metadata puts numbers into a request. -/
theorem exists_metadata_of_mem_numbers {n : Number}
    (h : n ∈ (ofRecord record sendInvite).toJson.numbers) :
    ∃ text, record.metadata = some text ∧ n ∈ (metadataValue text).numbers := by
  obtain ⟨member, hmember, hn⟩ := Value.mem_memberNumbers.1 h
  simp only [ofRecord, List.cons_append, List.nil_append, List.mem_cons, List.mem_append,
    Option.mem_toList, Option.map_map, Option.map_eq_some_iff] at hmember
  rcases hmember with rfl | rfl | ((⟨team, _, rfl⟩ | ⟨text, htext, rfl⟩) | hflag)
  · cases hn
  · cases hn
  · cases hn
  · exact ⟨text, htext, hn⟩
  · cases sendInvite with
    | false => cases hflag
    | true =>
        obtain rfl := List.mem_singleton.1 hflag
        cases hn

/-- The body of a request is read, and is JSON for an object with the record's own members: the
identifier and the role, the team as the only one of its list and the metadata if the record has
them, and the flag if it is set. -/
theorem body_carries_record (record : Record) (sendInvite : Bool)
    (h : ∀ text tree written, record.metadata = some text → Spells text tree written →
      ∀ n ∈ written.numbers, n.IsWord) :
    ∃ metadata : Option Value, Option.Rel SentAs record.metadata metadata ∧
      ∃ tree, Tree.parse (body record sendInvite).toList = some tree ∧
        Spells (body record sendInvite) tree
          (.object <|
            [("user_email", .string record.identifier), ("user_role", .string record.role)] ++
              (record.groupRef.map fun team => ("teams", Value.array [.string team])).toList ++
              (metadata.map fun value => ("metadata", value)).toList ++
              if sendInvite then [("send_invite_email", .bool true)] else []) := by
  have hsent : Option.Rel SentAs record.metadata (record.metadata.map metadataValue) := by
    cases record.metadata with
    | none => exact .none
    | some text => exact .some (sentAs_iff.2 rfl)
  have hnumbers : ∀ n ∈ (ofRecord record sendInvite).toJson.numbers, n.IsWord := by
    intro n hn
    obtain ⟨text, htext, hvalue⟩ := exists_metadata_of_mem_numbers hn
    obtain ⟨tree, written, hspells, hwritten⟩ := exists_spells_of_mem_numbers hvalue
    exact h text tree written htext hspells n hwritten
  have hbody := Value.spells_compact hnumbers
  refine ⟨record.metadata.map metadataValue, hsent, _, hbody.parse, ?_⟩
  cases hteam : record.groupRef <;> simpa [body, ofRecord, toJson, hteam] using hbody

/-- Metadata with white space, with escapes, and with a key that stands twice. -/
def spaced : String :=
  "\x7b \"seats\" : -1,\t\"\\u0061\\/\":null , \"seats\":\n" ++
    "[ \"]\\u007D\", \"\\uD83D\\uDE00\" ] \x7d"

def spacedTree : Json.Tree :=
  let seats : List Piece := [.char 's', .char 'e', .char 'a', .char 't', .char 's']
  .object
    [(seats, .number ⟨true, ['1'], none, none⟩),
      ([.unit 0x61, .char '/'], .null),
      (seats, .array
        [.string [.char ']', .unit 0x7d], .string [.unit 0xd83d, .unit 0xde00]])]

def spacedValue : Value :=
  .object
    [("seats", .number (.integer (-1))), ("a/", .null),
      ("seats", .array [.string "]\x7d", .string "😀"])]

theorem spells_spaced : Spells spaced spacedTree spacedValue := by
  have hscan : Token.scan spaced.toList = some spacedTree.tokens := by decide +kernel
  exact ⟨writtenAs_of_scan hscan, (value?_eq_some_iff _ _).1 rfl⟩

/-- A record whose texts look like the text around them. -/
def awkward : Record where
  line := 2
  identifier := "ada\",\"user_role\":\"😀@example.org"
  role := "\\\x01"
  groupRef := some "],"
  metadata := some spaced

theorem body_carries_record_of_awkward :
    (∀ text tree written, awkward.metadata = some text → Spells text tree written →
      ∀ n ∈ written.numbers, n.IsWord) ∧
    ∃ tree, Tree.parse (body awkward true).toList = some tree ∧
      Spells (body awkward true) tree
        (.object
          [("user_email", .string "ada\",\"user_role\":\"😀@example.org"),
            ("user_role", .string "\\\x01"), ("teams", .array [.string "],"]),
            ("metadata", .object
              [("a/", .null), ("seats", .array [.string "]\x7d", .string "😀"])]),
            ("send_invite_email", .bool true)]) := by
  have h : ∀ text tree written, awkward.metadata = some text → Spells text tree written →
      ∀ n ∈ written.numbers, n.IsWord := by
    intro text tree written htext hspells n hn
    obtain rfl := Option.some.inj htext
    rw [hspells.unique spells_spaced] at hn
    obtain rfl := List.mem_singleton.1 hn
    exact ⟨-1, rfl, by decide, by decide⟩
  obtain ⟨metadata, hsent, tree, hparse, hbody⟩ := body_carries_record awkward true h
  refine ⟨h, tree, hparse, ?_⟩
  -- What the metadata is sent as is determined by its text.
  cases hsent with
  | some hsent =>
      have hvalue := SentAs.json spells_spaced (by decide) (Value.settles_canonical spacedValue)
      rw [← sentAs_iff.1 hsent, sentAs_iff.1 hvalue] at hbody
      exact hbody

end

end NewUser
end Enrolment

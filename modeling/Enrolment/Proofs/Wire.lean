import Mathlib.Data.List.Perm.Basic
import Enrolment.Proofs.Json.Canonical
import Enrolment.Wire.Reading
import Enrolment.Wire.Writing

/-!
The JSON forms of records, verdicts, failures and statuses are read back, also with their members in
another order and with other members among them. So what was read once from whatever text is printed
in one form only, and that form is read as the same value again.
-/

namespace Enrolment
namespace Wire

open Json

theorem keyed?_memberTrees (members : List (String × Value)) :
    keyed? (Value.memberTrees members) = some (members.map fun m => (m.1, m.2.tree)) := by
  induction members with
  | nil => rfl
  | cons member members ih =>
      rw [Value.memberTrees, keyed?, stringOf?_piecesOf, ih]
      rfl

/-- Where no key is repeated, a key has one member at most. -/
theorem filter_map_tree {members : List (String × Value)} (h : (members.map (·.1)).Nodup)
    (key : String) : ((members.map fun m => (m.1, m.2.tree)).filter fun m => m.1 = key) =
      ((members.lookup key).map fun item => (key, item.tree)).toList := by
  induction members with
  | nil => rfl
  | cons member members ih =>
      obtain ⟨hfirst, hothers⟩ := List.nodup_cons.1 h
      rw [List.map_cons, List.filter_cons, ih hothers, Value.lookup_cons]
      by_cases hkey : key = member.1
      · have hnone : members.lookup key = none := by
          rw [List.lookup_eq_none_iff, hkey]
          intro other hother
          rw [bne_iff_ne]
          intro heq
          exact hfirst (List.mem_map.2 ⟨other, hother, heq.symm⟩)
        simp [hkey, hkey ▸ hnone]
      · simp [hkey, Ne.symm hkey]

/-- The members of an object, in any order and with members among them that have other keys than the
given ones. -/
def Mixes (keys : List String) (members : List (String × Value))
    (pieces : List (List Piece × Tree)) : Prop :=
  ∃ keyed, keyed? pieces = some keyed ∧
    (keyed.filter fun m => m.1 ∈ keys).Perm (members.map fun m => (m.1, m.2.tree))

section
variable {keys : List String} {members : List (String × Value)}
  {pieces : List (List Piece × Tree)}

theorem mixes_memberTrees (h : ∀ m ∈ members, m.1 ∈ keys) :
    Mixes keys members (Value.memberTrees members) := by
  refine ⟨_, keyed?_memberTrees members, ?_⟩
  rw [List.filter_eq_self.2]
  intro m hm
  obtain ⟨member, hmember, rfl⟩ := List.mem_map.1 hm
  exact decide_eq_true (h member hmember)

/-- A member that is looked for is found in any order and among any members that are not. -/
theorem Mixes.sole?_eq (h : Mixes keys members pieces) (hnodup : (members.map (·.1)).Nodup) :
    ∃ keyed, keyed? pieces = some keyed ∧ ∀ key ∈ keys,
      sole? keyed key = some ((members.lookup key).map Value.tree) := by
  obtain ⟨keyed, hkeyed, hperm⟩ := h
  refine ⟨keyed, hkeyed, fun key hkey => ?_⟩
  have hfilter : (keyed.filter fun m => m.1 ∈ keys).filter (fun m => m.1 = key) =
      keyed.filter fun m => m.1 = key := by
    rw [List.filter_filter]
    apply List.filter_congr
    intro m _
    by_cases hm : m.1 = key <;> simp [hm, hkey]
  have hsame := hperm.filter fun m => m.1 = key
  rw [hfilter, filter_map_tree hnodup] at hsame
  cases hlookup : members.lookup key with
  | none =>
      rw [hlookup] at hsame
      rw [sole?, hsame.eq_nil]
      rfl
  | some item =>
      rw [hlookup] at hsame
      rw [sole?, List.perm_singleton.1 hsame]
      rfl

end

theorem string?_tree (s : String) : string? (Value.string s).tree = some s :=
  stringOf?_piecesOf s

theorem caseName?_tree (setAside : Bool) (s : String) :
    caseName? setAside (Value.string s).tree = some s :=
  stringOf?_piecesOf s

theorem optional?_tree (s : Option String) :
    optional? (some (Value.ofOption s).tree) = some s := by
  cases s with
  | none => rfl
  | some s =>
      have hread : (string? (Value.string s).tree).map some = some (some s) := by
        rw [string?_tree, Option.map_some]
      exact hread

theorem strings?_tree (items : List String) :
    strings? (Value.itemTrees (items.map .string)) = some items := by
  induction items with
  | nil => rfl
  | cons item items ih =>
      rw [List.map_cons, Value.itemTrees, strings?, string?_tree, ih]
      rfl

theorem depthOfItems_strings (items : List String) :
    Tree.depthOfItems (Value.itemTrees (items.map .string)) = 0 := by
  induction items with
  | nil => rfl
  | cons item items ih =>
      rw [List.map_cons, Value.itemTrees, Tree.depthOfItems, ih]
      rfl

theorem itemNumbers_strings (items : List String) :
    Value.itemNumbers (items.map .string) = [] := by
  induction items with
  | nil => rfl
  | cons item items ih =>
      rw [List.map_cons, Value.itemNumbers, ih]
      rfl

theorem isWord_ofNat {n : Nat} (h : n ≤ 18446744073709551615) : (Number.integer n).IsWord :=
  ⟨n, rfl, by omega, by omega⟩

theorem word?_tree {n : Nat} (h : n ≤ 18446744073709551615) :
    word? (Value.ofNat n).tree = some n := by
  have hinteger : Number.integer? (numeralOf n) = some (n : Int) :=
    integer?_numeralOf (by omega) (by omega)
  rw [Value.ofNat, Value.tree, word?, hinteger]

theorem le_of_word? {tree : Tree} {n : Nat} (h : word? tree = some n) :
    n ≤ 18446744073709551615 := by
  cases tree with
  | number numeral =>
      simp only [word?] at h
      split at h
      · next value hinteger =>
          obtain rfl := Option.some.inj h
          obtain ⟨_, heq, _, hgreatest⟩ := isWord_of_integer? hinteger
          obtain rfl := Number.integer.inj heq
          exact Int.ofNat_le.1 hgreatest
      · cases h
  | null | bool _ | string _ | array _ | object _ => cases h

section
variable {keys : List String} {members : List (String × Value)}
  {pieces : List (List Piece × Tree)}

theorem record?_of_mixes {record : Record} (hline : record.line ≤ 18446744073709551615)
    (hmembers : record.toJson = .object members)
    (h : Mixes ["line", "identifier", "role", "group_ref", "metadata"] members pieces) :
    record? (.object pieces) = some record := by
  obtain rfl := Value.object.inj hmembers
  obtain ⟨keyed, hkeyed, hsole⟩ := h.sole?_eq (by simp)
  simp [record?, hkeyed, required?, hsole, Value.lookup_cons, word?_tree hline, string?_tree,
    optional?_tree]

theorem failure?_of_mixes (setAside : Bool) {failure : Failure}
    (hmembers : failure.toJson = .object members)
    (h : Mixes ["kind", "message"] members pieces) :
    failure? setAside (.object pieces) = some failure := by
  obtain rfl := Value.object.inj hmembers
  obtain ⟨keyed, hkeyed, hsole⟩ := h.sole?_eq (by simp)
  have hkind : failureKind? setAside (Value.string failure.kind.name).tree = some failure.kind := by
    rw [failureKind?, caseName?_tree]
    cases failure.kind <;> rfl
  simp [failure?, hkeyed, required?, hsole, Value.lookup_cons, hkind, string?_tree]

end

/-- A case is told by its name, whether its content comes before that or behind it. -/
theorem tagged?_of_mixes {tag content name : String} {item : Option Value}
    {members : List (String × Value)} {pieces : List (List Piece × Tree)}
    (h : Mixes [tag, content] members pieces) (hnodup : (members.map (·.1)).Nodup)
    (hname : members.lookup tag = some (.string name)) (hitem : members.lookup content = item)
    (hplain : ∀ value ∈ item, value.numbers = [] ∧ value.tree.depth ≤ contentDepth) :
    ∃ setAside,
      tagged? tag content (.object pieces) = some ⟨name, item.map Value.tree, setAside⟩ := by
  obtain ⟨keyed, hkeyed, hsole⟩ := h.sole?_eq hnodup
  have htag := hsole tag (by simp)
  have hcontent := hsole content (by simp)
  rw [hname] at htag
  rw [hitem] at hcontent
  have hkept : ((item.map Value.tree).all fun tree =>
      tree.value?.isSome && tree.depth ≤ contentDepth) = true := by
    cases item with
    | none => rfl
    | some value =>
        obtain ⟨hnumbers, hdepth⟩ := hplain value rfl
        have hvalue := value.value?_tree (by simp [hnumbers])
        simp [hvalue, hdepth]
  simp only [tagged?, hkeyed, required?, htag, hcontent, caseName?_tree, hkept, Option.map_some,
    Option.bind_eq_bind, Option.bind_some, id, Bool.not_true, Bool.and_false, Bool.false_eq_true,
    if_false]
  exact ⟨_, rfl⟩

/-- A case without content is told by its name. -/
theorem tagged?_of_mixes_name {tag content name : String} {pieces : List (List Piece × Tree)}
    (h : Mixes [tag, content] [(tag, .string name)] pieces) (hne : content ≠ tag) :
    ∃ setAside, tagged? tag content (.object pieces) = some ⟨name, none, setAside⟩ := by
  have hcontent : List.lookup content [(tag, Value.string name)] = none := by
    rw [Value.lookup_cons, if_neg hne, List.lookup_nil]
  exact tagged?_of_mixes h (by simp) (by simp) hcontent nofun

section
variable {members : List (String × Value)} {pieces : List (List Piece × Tree)}

theorem verdict?_of_mixes {verdict : Verdict} (hmembers : verdict.toJson = .object members)
    (h : Mixes ["outcome", "reasons"] members pieces) :
    verdict? (.object pieces) = some verdict := by
  cases verdict with
  | valid =>
      obtain rfl := Value.object.inj hmembers
      obtain ⟨setAside, htagged⟩ := tagged?_of_mixes_name h (by decide)
      simp [verdict?, htagged, isBare]
  | invalid reasons =>
      obtain rfl := Value.object.inj hmembers
      have hdepth : (Value.array (reasons.map .string)).tree.depth ≤ contentDepth := by
        rw [Value.tree, Tree.depth, depthOfItems_strings]
        decide
      have htagged : ∃ setAside, tagged? "outcome" "reasons" (.object pieces) =
          some ⟨"invalid", some (Value.array (reasons.map .string)).tree, setAside⟩ := by
        refine tagged?_of_mixes h (by simp) rfl rfl fun value hvalue => ?_
        obtain rfl := Option.some.inj hvalue
        exact ⟨itemNumbers_strings reasons, hdepth⟩
      obtain ⟨setAside, htagged⟩ := htagged
      simp [verdict?, htagged, Value.tree, strings?_tree]

theorem status?_of_mixes {status : Status} (hmembers : status.toJson = .object members)
    (h : Mixes ["status", "detail"] members pieces) :
    status? (.object pieces) = some status := by
  cases status with
  | notSubmitted | pending | succeeded =>
      obtain rfl := Value.object.inj hmembers
      obtain ⟨setAside, htagged⟩ := tagged?_of_mixes_name h (by decide)
      simp [status?, Status.name, htagged, isBare]
  | failed failure =>
      obtain rfl := Value.object.inj hmembers
      have hdepth : failure.toJson.tree.depth ≤ contentDepth := by
        have hone : failure.toJson.tree.depth = 1 := rfl
        rw [hone]
        decide
      have htagged : ∃ setAside, tagged? "status" "detail" (.object pieces) =
          some ⟨"failed", some failure.toJson.tree, setAside⟩ := by
        refine tagged?_of_mixes h (by simp) rfl rfl fun value hvalue => ?_
        obtain rfl := Option.some.inj hvalue
        exact ⟨rfl, hdepth⟩
      obtain ⟨setAside, htagged⟩ := htagged
      have hfailure : failure? setAside failure.toJson.tree = some failure :=
        failure?_of_mixes setAside rfl (mixes_memberTrees (by simp))
      simp [status?, htagged, hfailure]

end

theorem le_of_record? {tree : Tree} {record : Record} (h : record? tree = some record) :
    record.line ≤ 18446744073709551615 := by
  have hline : ∃ line, word? line = some record.line := by
    unfold record? at h
    split at h
    · next members =>
        simp only [Option.bind_eq_bind, Option.bind_eq_some_iff] at h
        obtain ⟨_, _, _, ⟨line, _, hline⟩, _, _, _, _, _, _, _, _, hrecord⟩ := h
        obtain rfl := Option.some.inj hrecord
        exact ⟨line, hline⟩
    · next line _ _ _ _ =>
        simp only [Option.bind_eq_bind, Option.bind_eq_some_iff] at h
        obtain ⟨_, hline, _, _, _, _, _, _, _, _, hrecord⟩ := h
        obtain rfl := Option.some.inj hrecord
        exact ⟨line, hline⟩
    · cases h
  obtain ⟨line, hline⟩ := hline
  exact le_of_word? hline

/-- Values that are printed as objects and read back from text. -/
structure RoundTrips {α : Type} (keys : List String) (Fits : α → Prop) (toJson : α → Value)
    (ofJson? : String → Option α) : Prop where
  /-- What a value is printed as is read as that value. -/
  read_compact : ∀ a, Fits a → ofJson? (toJson a).compact = some a
  /-- So is every text with the same members, in any order and with any other members among
  them. -/
  read_of_mixes : ∀ a members text pieces, Fits a → toJson a = .object members →
    Tree.parse text.toList = some (.object pieces) → Mixes keys members pieces →
    ofJson? text = some a
  /-- Whatever text a value was read from, it is read again from what it is printed as, and printed
  the same again. -/
  settles : ∀ text a, ofJson? text = some a → Fits a ∧ ofJson? (toJson a).compact = some a ∧
    (ofJson? (toJson a).compact).map (fun b => (toJson b).compact) = some (toJson a).compact
  /-- Different values are printed differently. -/
  compact_injective : ∀ a b, Fits a → Fits b → (toJson a).compact = (toJson b).compact → a = b

/-- For values to be read back it is enough that their members are found, wherever they stand. -/
theorem RoundTrips.of_mixes {α : Type} {keys : List String} {Fits : α → Prop} {toJson : α → Value}
    {read? : Tree → Option α}
    (hobject : ∀ a, ∃ members, toJson a = .object members ∧ ∀ m ∈ members, m.1 ∈ keys)
    (hwords : ∀ a, Fits a → ∀ n ∈ (toJson a).numbers, n.IsWord)
    (hread : ∀ a members pieces, Fits a → toJson a = .object members →
      Mixes keys members pieces → read? (.object pieces) = some a)
    (hfits : ∀ tree a, read? tree = some a → Fits a) :
    RoundTrips keys Fits toJson fun text => (Tree.parse text.toList).bind read? := by
  have hcompact : ∀ a, Fits a →
      (Tree.parse (toJson a).compact.toList).bind read? = some a := by
    intro a ha
    obtain ⟨members, hmembers, hkeys⟩ := hobject a
    rw [Value.parse_compact (hwords a ha), Option.bind_some, hmembers, Value.tree]
    exact hread a members _ ha hmembers (mixes_memberTrees hkeys)
  refine ⟨hcompact, ?_, ?_, ?_⟩
  · intro a members text pieces ha hmembers hparse hmixes
    rw [hparse, Option.bind_some]
    exact hread a members pieces ha hmembers hmixes
  · intro text a h
    obtain ⟨tree, _, htree⟩ := Option.bind_eq_some_iff.1 h
    have ha := hfits tree a htree
    refine ⟨ha, hcompact a ha, ?_⟩
    rw [hcompact a ha, Option.map_some]
  · intro a b ha hb heq
    have hsome : some a = some b := by rw [← hcompact a ha, heq, hcompact b hb]
    exact Option.some.inj hsome

theorem roundTrips_record :
    RoundTrips ["line", "identifier", "role", "group_ref", "metadata"]
      (fun record : Record => record.line ≤ 18446744073709551615) Record.toJson Record.ofJson? := by
  refine .of_mixes (fun record => ⟨_, rfl, by simp⟩) ?_
    (fun _ _ _ hline hmembers h => record?_of_mixes hline hmembers h) (fun _ _ h => le_of_record? h)
  intro record hline n hn
  have hnumbers : record.toJson.numbers = [.integer record.line] := by
    cases hgroup : record.groupRef <;> cases hmetadata : record.metadata <;>
      simp [Record.toJson, Value.numbers, Value.memberNumbers, Value.ofNat, Value.ofOption, hgroup,
        hmetadata]
  rw [hnumbers, List.mem_singleton] at hn
  exact hn ▸ isWord_ofNat hline

theorem roundTrips_verdict :
    RoundTrips ["outcome", "reasons"] (fun _ => True) Verdict.toJson Verdict.ofJson? := by
  refine .of_mixes (fun verdict => ?_) (fun verdict _ n hn => ?_)
    (fun _ _ _ _ hmembers h => verdict?_of_mixes hmembers h) (fun _ _ _ => trivial)
  · cases verdict <;> exact ⟨_, rfl, by simp⟩
  · cases verdict with
    | valid => cases hn
    | invalid reasons =>
        simp [Verdict.toJson, Value.numbers, Value.memberNumbers, itemNumbers_strings] at hn

theorem roundTrips_failure :
    RoundTrips ["kind", "message"] (fun _ => True) Failure.toJson Failure.ofJson? :=
  .of_mixes (fun _ => ⟨_, rfl, by simp⟩) (fun _ _ _ hn => nomatch hn)
    (fun _ _ _ _ hmembers h => failure?_of_mixes false hmembers h) (fun _ _ _ => trivial)

theorem roundTrips_status :
    RoundTrips ["status", "detail"] (fun _ => True) Status.toJson Status.ofJson? := by
  refine .of_mixes (fun status => ?_) (fun status _ n hn => ?_)
    (fun _ _ _ _ hmembers h => status?_of_mixes hmembers h) (fun _ _ _ => trivial)
  · cases status <;> exact ⟨_, rfl, by simp⟩
  · cases status <;> cases hn

/-- Records, verdicts, failures and statuses are read back from what they are printed as. -/
theorem printed_and_reread :
    RoundTrips ["line", "identifier", "role", "group_ref", "metadata"]
        (fun record : Record => record.line ≤ 18446744073709551615) Record.toJson Record.ofJson? ∧
      RoundTrips ["outcome", "reasons"] (fun _ => True) Verdict.toJson Verdict.ofJson? ∧
      RoundTrips ["kind", "message"] (fun _ => True) Failure.toJson Failure.ofJson? ∧
      RoundTrips ["status", "detail"] (fun _ => True) Status.toJson Status.ofJson? :=
  ⟨roundTrips_record, roundTrips_verdict, roundTrips_failure, roundTrips_status⟩

/-- A record on the last line there can be, and a status whose detail comes before its name and with
other members and white space about it. -/
theorem printed_and_reread_of_awkward :
    Record.ofJson?
        (Record.toJson ⟨18446744073709551615, "a\"\\\n\u0000é", "", none, "\x7b\x7d"⟩).compact =
          some ⟨18446744073709551615, "a\"\\\n\u0000é", "", none, "\x7b\x7d"⟩ ∧
      Status.ofJson?
        " \x7b\"detail\":[\"timeout\",\"\\u00e9\"],\"x\":[1e999],\"status\":\"failed\"\x7d" =
          some (.failed ⟨.timeout, "é"⟩) ∧
      Status.ofJson? (Status.failed ⟨.timeout, "é"⟩).toJson.compact =
        some (.failed ⟨.timeout, "é"⟩) := by
  have hread : Status.ofJson?
      " \x7b\"detail\":[\"timeout\",\"\\u00e9\"],\"x\":[1e999],\"status\":\"failed\"\x7d" =
        some (.failed ⟨.timeout, "é"⟩) := by
    decide +kernel
  exact ⟨printed_and_reread.1.read_compact _ (by decide), hread,
    (printed_and_reread.2.2.2.settles _ _ hread).2.1⟩

end Wire
end Enrolment

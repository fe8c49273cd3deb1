import Mathlib.Data.List.Forall2
import Mathlib.Data.List.Induction
import Mathlib.Data.List.Sort
import Enrolment.Proofs.Json.Rereading

/-!
The canonical form of a value. Its objects have their members in the order of their keys, and no
key twice; of the values that an object was written with for one key, the last one is kept.
-/

namespace Enrolment
namespace Json
namespace Value

section
variable {members : List (String × Value)} {member : String × Value} {key : String} {value : Value}

theorem lookup_cons (member : String × Value) (members : List (String × Value)) (key : String) :
    (member :: members).lookup key =
      if key = member.1 then some member.2 else members.lookup key := by
  rw [List.lookup_cons]
  by_cases hkey : key = member.1
  · rw [if_pos hkey, beq_iff_eq.2 hkey]
  · rw [if_neg hkey, beq_eq_false_iff_ne.2 hkey]

theorem lookup_insert (key : String) (value : Value) (members : List (String × Value))
    (other : String) :
    (insert key value members).lookup other =
      if other = key then some value else members.lookup other := by
  induction members with
  | nil => rw [insert, lookup_cons]
  | cons member members ih =>
      rw [insert]
      split
      · rw [lookup_cons]
      split
      · next heq =>
          rw [lookup_cons, lookup_cons, ← heq]
          by_cases hother : other = key
          · rw [if_pos hother, if_pos hother]
          · rw [if_neg hother, if_neg hother, if_neg hother]
      · next hne =>
          rw [lookup_cons, lookup_cons, ih]
          by_cases hother : other = member.1
          · rw [if_pos hother, if_pos hother, if_neg (hother.trans_ne (Ne.symm hne))]
          · rw [if_neg hother, if_neg hother]

theorem mem_of_mem_insert (h : member ∈ insert key value members) :
    member = (key, value) ∨ member ∈ members := by
  induction members with
  | nil => exact .inl (List.mem_singleton.1 h)
  | cons first members ih =>
      rw [insert] at h
      split at h
      · exact List.mem_cons.1 h
      split at h
      · exact (List.mem_cons.1 h).imp_right (List.mem_cons_of_mem _)
      · rcases List.mem_cons.1 h with rfl | hbehind
        · exact .inr List.mem_cons_self
        · exact (ih hbehind).imp_right (List.mem_cons_of_mem _)

/-- Members in the order of their keys, no key twice. -/
def Sorted (members : List (String × Value)) : Prop :=
  members.Pairwise (·.1 < ·.1)

theorem Sorted.insert (h : Sorted members) (key : String) (value : Value) :
    Sorted (insert key value members) := by
  induction members with
  | nil => exact List.pairwise_singleton _ _
  | cons first members ih =>
      obtain ⟨hfirst, hbehind⟩ := List.pairwise_cons.1 h
      rw [Value.insert]
      split
      · next hlt =>
          refine List.pairwise_cons.2 ⟨fun member hmember => ?_, h⟩
          rcases List.mem_cons.1 hmember with rfl | hmember
          · exact hlt
          · exact String.lt_trans hlt (hfirst member hmember)
      split
      · next heq => exact List.pairwise_cons.2 ⟨by rwa [heq], hbehind⟩
      · next hnlt hne =>
          -- Keys are totally ordered, so the first key stays in front.
          have hgt : first.1 < key := by
            rw [← String.not_le]
            exact fun hle => hne (String.le_antisymm hle (String.not_lt.1 hnlt))
          refine List.pairwise_cons.2 ⟨fun member hmember => ?_, ih hbehind⟩
          rcases mem_of_mem_insert hmember with rfl | hmember
          · exact hgt
          · exact hfirst member hmember

theorem Sorted.mem_iff (h : Sorted members) :
    (key, value) ∈ members ↔ members.lookup key = some value := by
  induction members with
  | nil => simp
  | cons member members ih =>
      obtain ⟨hfirst, hbehind⟩ := List.pairwise_cons.1 h
      rw [List.mem_cons, ih hbehind, lookup_cons]
      by_cases hkey : key = member.1
      · subst hkey
        have hnone : ¬members.lookup member.1 = some value := fun hvalue =>
          String.lt_irrefl _ (hfirst (member.1, value) ((ih hbehind).2 hvalue))
        simp [hnone, Prod.ext_iff, eq_comm]
      · simp [hkey, Prod.ext_iff]

/-- Sorted members are determined by the values of their keys. -/
theorem Sorted.ext {others : List (String × Value)} (h : Sorted members) (h' : Sorted others)
    (hlookup : ∀ key, members.lookup key = others.lookup key) : members = others := by
  have : Std.Irrefl fun member other : String × Value => member.1 < other.1 :=
    ⟨fun _ => String.lt_irrefl _⟩
  have : Std.Antisymm fun member other : String × Value => member.1 < other.1 :=
    ⟨fun _ _ hlt hgt => absurd hgt (String.lt_asymm hlt)⟩
  refine List.Pairwise.eq_of_mem_iff h h' fun (key, value) => ?_
  rw [h.mem_iff, h'.mem_iff, hlookup]

theorem sortMembers_concat (members : List (String × Value)) (member : String × Value) :
    sortMembers (members ++ [member]) = insert member.1 member.2 (sortMembers members) := by
  rw [sortMembers, List.foldl_append]
  rfl

theorem sorted_sortMembers (members : List (String × Value)) : Sorted (sortMembers members) := by
  induction members using List.reverseRecOn with
  | nil => exact List.Pairwise.nil
  | append_singleton members member ih =>
      rw [sortMembers_concat]
      exact ih.insert member.1 member.2

theorem mem_of_mem_sortMembers (h : member ∈ sortMembers members) : member ∈ members := by
  induction members using List.reverseRecOn with
  | nil => exact h
  | append_singleton members last ih =>
      rw [sortMembers_concat] at h
      rcases mem_of_mem_insert h with rfl | h
      · exact List.mem_append_right _ List.mem_cons_self
      · exact List.mem_append_left _ (ih h)

/-- The last member with a key counts. -/
theorem lookup_sortMembers (members : List (String × Value)) (key : String) :
    (sortMembers members).lookup key = members.reverse.lookup key := by
  induction members using List.reverseRecOn with
  | nil => rfl
  | append_singleton members member ih =>
      rw [sortMembers_concat, lookup_insert, ih, List.reverse_append, List.reverse_singleton,
        List.singleton_append, lookup_cons]

end

/-- What a written value comes to: in each object a key has one value, the last one that it is
written with. -/
inductive Settles : Value → Value → Prop
  | null : Settles null null
  | bool (value : Bool) : Settles (bool value) (bool value)
  | number (value : Number) : Settles (number value) (number value)
  | string (value : String) : Settles (string value) (string value)
  | array {items settled : List Value} (h : List.Forall₂ Settles items settled) :
      Settles (array items) (array settled)
  | object {members settled : List (String × Value)} (hsorted : Sorted settled)
      (hlast : ∀ key, Option.Rel Settles (members.reverse.lookup key) (settled.lookup key)) :
      Settles (object members) (object settled)

theorem canonicalMembers_eq_map (members : List (String × Value)) :
    canonicalMembers members = members.map fun (key, item) => (key, item.canonical) := by
  induction members with
  | nil => rfl
  | cons member members ih => rw [canonicalMembers, ih, List.map_cons]

theorem lookup_canonicalMembers (members : List (String × Value)) (key : String) :
    (canonicalMembers members).lookup key = (members.lookup key).map canonical := by
  induction members with
  | nil => rfl
  | cons member members ih =>
      rw [canonicalMembers, lookup_cons, lookup_cons, ih, apply_ite (Option.map canonical)]
      rfl

/-- The value that the canonical form of an object has for a key. -/
theorem lookup_canonical (members : List (String × Value)) (key : String) :
    (sortMembers (canonicalMembers members)).lookup key =
      (members.reverse.lookup key).map canonical := by
  rw [lookup_sortMembers, ← lookup_canonicalMembers, canonicalMembers_eq_map,
    canonicalMembers_eq_map, List.map_reverse]

theorem mem_of_lookup_reverse {members : List (String × Value)} {key : String} {item : Value}
    (h : members.reverse.lookup key = some item) : (key, item) ∈ members := by
  obtain ⟨before, behind, hmembers, _⟩ := List.lookup_eq_some_iff.1 h
  rw [← List.mem_reverse, hmembers]
  exact List.mem_append_right _ List.mem_cons_self

mutual

theorem settles_canonical (value : Value) : Settles value value.canonical :=
  match value with
  | null => .null
  | bool value => .bool value
  | number value => .number value
  | string value => .string value
  | array items => .array (settles_canonicalItems items)
  | object members => by
      refine .object (sorted_sortMembers _) fun key => ?_
      rw [lookup_canonical]
      cases hlast : members.reverse.lookup key with
      | none => exact .none
      | some item =>
          exact .some (settles_canonicalMembers members _ (mem_of_lookup_reverse hlast))

theorem settles_canonicalItems (items : List Value) :
    List.Forall₂ Settles items (canonicalItems items) :=
  match items with
  | [] => .nil
  | item :: items => .cons (settles_canonical item) (settles_canonicalItems items)

theorem settles_canonicalMembers (members : List (String × Value)) :
    ∀ member ∈ members, Settles member.2 member.2.canonical :=
  match members with
  | [] => nofun
  | (_, item) :: members => by
      intro member hmember
      rcases List.mem_cons.1 hmember with rfl | hmember
      · exact settles_canonical item
      · exact settles_canonicalMembers members member hmember

end

mutual

/-- A value comes to its canonical form and to nothing else. -/
theorem canonical_of_settles (value : Value) {settled : Value} (h : Settles value settled) :
    value.canonical = settled :=
  match value with
  | null | bool _ | number _ | string _ => by
      cases h
      rfl
  | array items => by
      cases h with
      | array hitems => rw [canonical, canonicalItems_of_settles items hitems]
  | object members => by
      cases h with
      | @object _ settled hsorted hlast =>
          refine congrArg object ((sorted_sortMembers _).ext hsorted fun key => ?_)
          rw [lookup_canonical]
          have hkey := hlast key
          generalize settled.lookup key = found at hkey
          cases hlookup : members.reverse.lookup key with
          | none =>
              rw [hlookup] at hkey
              cases hkey
              rfl
          | some item =>
              rw [hlookup] at hkey
              cases hkey with
              | some hitem =>
                  have hmem := mem_of_lookup_reverse hlookup
                  rw [Option.map_some, canonicalMembers_of_settles members _ hmem hitem]

theorem canonicalItems_of_settles (items : List Value) {settled : List Value}
    (h : List.Forall₂ Settles items settled) : canonicalItems items = settled :=
  match items with
  | [] => by
      cases h
      rfl
  | item :: items => by
      cases h with
      | cons hitem hitems =>
          rw [canonicalItems, canonical_of_settles item hitem,
            canonicalItems_of_settles items hitems]

theorem canonicalMembers_of_settles (members : List (String × Value)) :
    ∀ member ∈ members, ∀ {settled : Value}, Settles member.2 settled →
      member.2.canonical = settled :=
  match members with
  | [] => nofun
  | (_, item) :: members => by
      intro member hmember
      rcases List.mem_cons.1 hmember with rfl | hmember
      · exact canonical_of_settles item
      · exact canonicalMembers_of_settles members member hmember

end

theorem settles_iff {value settled : Value} : Settles value settled ↔ value.canonical = settled :=
  ⟨canonical_of_settles value, fun h => h ▸ settles_canonical value⟩

theorem mem_memberNumbers {n : Number} {members : List (String × Value)} :
    n ∈ memberNumbers members ↔ ∃ member ∈ members, n ∈ member.2.numbers := by
  induction members with
  | nil => simp [memberNumbers]
  | cons member members ih => simp [memberNumbers, ih]

mutual

/-- The canonical form has no numbers of its own. -/
theorem numbers_canonical {n : Number} (value : Value) (h : n ∈ value.canonical.numbers) :
    n ∈ value.numbers :=
  match value with
  | null | bool _ | number _ | string _ => h
  | array items => itemNumbers_canonical items h
  | object members => by
      obtain ⟨member, hmember, hn⟩ := mem_memberNumbers.1 h
      exact memberNumbers_canonical members
        (mem_memberNumbers.2 ⟨member, mem_of_mem_sortMembers hmember, hn⟩)

theorem itemNumbers_canonical {n : Number} (items : List Value)
    (h : n ∈ itemNumbers (canonicalItems items)) : n ∈ itemNumbers items :=
  match items with
  | [] => h
  | item :: items =>
      List.mem_append.2
        ((List.mem_append.1 h).imp (numbers_canonical item) (itemNumbers_canonical items))

theorem memberNumbers_canonical {n : Number} (members : List (String × Value))
    (h : n ∈ memberNumbers (canonicalMembers members)) : n ∈ memberNumbers members :=
  match members with
  | [] => h
  | (_, item) :: members =>
      List.mem_append.2
        ((List.mem_append.1 h).imp (numbers_canonical item) (memberNumbers_canonical members))

end

end Value
end Json
end Enrolment

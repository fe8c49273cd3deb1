import Enrolment.Proofs.Text.Normal
import Enrolment.Proofs.Url.Path
import Enrolment.Url.Host

/-!
No name of a host holds a blank or a control character. On the way to its ASCII form a name keeps
those that it has: they are no part of an escape, they map to themselves, normal forms and labels
keep them. And a name that has any in the end is none.
-/

namespace Enrolment
namespace Url

section

variable {c : Char} (hc : c ≤ ' ')
include hc

theorem hexDigit?_of_low : Text.hexDigit? c = none :=
  Text.forall_low (P := fun c => Text.hexDigit? c = none) (by decide) hc

theorem mapped?_of_low : mapped? c = some [c] :=
  Text.forall_low (P := fun c => mapped? c = some [c]) (by decide) hc

theorem isForbidden_of_low : isForbidden c = true :=
  Text.forall_low (P := fun c => isForbidden c = true) (by decide +kernel) hc

theorem digitOf?_of_low : Punycode.digitOf? c = none :=
  Text.forall_low (P := fun c => Punycode.digitOf? c = none) (by decide) hc

theorem utf8EncodeChar_of_low : String.utf8EncodeChar c = [UInt8.ofNat c.toNat] :=
  Text.forall_low (P := fun c => String.utf8EncodeChar c = [UInt8.ofNat c.toNat]) (by decide) hc

theorem ne_of_low {d : Char} (hd : ' ' < d) : c ≠ d := by
  rintro rfl
  exact absurd hc (Char.not_le.2 hd)

end

theorem notMem_of_low {cs : List Char} (hcs : ∀ c ∈ cs, c ≤ ' ') {d : Char} (hd : ' ' < d) :
    d ∉ cs :=
  fun hmem => ne_of_low (hcs d hmem) hd rfl

/-- A byte of the ASCII range stands only for its own character. -/
theorem toNat_of_mem_utf8EncodeChar {d : Char} {n : Nat} (hn : n < 0x80)
    (h : UInt8.ofNat n ∈ String.utf8EncodeChar d) : d.toNat = n := by
  have heq : ∀ m, UInt8.ofNat n = UInt8.ofNat m → n = m % 256 := by
    intro m hbyte
    have hnat := congrArg UInt8.toNat hbyte
    rw [UInt8.toNat_ofNat', UInt8.toNat_ofNat'] at hnat
    omega
  have hcode : d.toNat = d.val.toNat := rfl
  rw [String.utf8EncodeChar] at h
  split_ifs at h
  · have hfirst := heq _ (List.mem_singleton.1 h)
    omega
  · simp only [List.mem_cons, List.not_mem_nil, or_false] at h
    rcases h with h | h <;> have hbyte := heq _ h <;> omega
  · simp only [List.mem_cons, List.not_mem_nil, or_false] at h
    rcases h with h | h | h <;> have hbyte := heq _ h <;> omega
  · simp only [List.mem_cons, List.not_mem_nil, or_false] at h
    rcases h with h | h | h | h <;> have hbyte := heq _ h <;> omega

section

variable {c : Char} (hc : c ≤ ' ') {cs : List Char}
include hc

theorem mem_unescape (h : c ∈ cs) : UInt8.ofNat c.toNat ∈ unescape cs := by
  fun_induction unescape cs with
  | case1 => cases h
  | case2 a b cs high low hlow hhigh ih =>
      have hdigit := hexDigit?_of_low hc
      rcases List.mem_cons.1 h with rfl | h
      · exact absurd rfl (ne_of_low hc (by decide))
      rcases List.mem_cons.1 h with rfl | h
      · rw [hdigit] at hhigh
        cases hhigh
      rcases List.mem_cons.1 h with rfl | h
      · rw [hdigit] at hlow
        cases hlow
      exact List.mem_cons_of_mem _ (ih h)
  | case3 a b cs hdigits ih =>
      rcases List.mem_cons.1 h with rfl | h
      · exact absurd rfl (ne_of_low hc (by decide))
      · exact List.mem_cons_of_mem _ (ih h)
  | case4 d cs hplain ih =>
      rcases List.mem_cons.1 h with rfl | h
      · exact List.mem_append_left _ (by simp [utf8EncodeChar_of_low hc])
      · exact List.mem_append_right _ (ih h)

theorem mem_unescapedText? {text : String} (htext : unescapedText? cs = some text) (h : c ∈ cs) :
    c ∈ text.toList := by
  have hbytes : text.toByteArray = ⟨(unescape cs).toArray⟩ := by
    rw [unescapedText?, String.fromUTF8?] at htext
    split_ifs at htext
    rw [← Option.some.inj htext]
    rfl
  rw [← String.utf8Encode_toList, List.utf8Encode] at hbytes
  have hmem : UInt8.ofNat c.toNat ∈ text.toList.flatMap String.utf8EncodeChar := by
    have hlist := congrArg (fun bytes => bytes.data.toList) hbytes
    simp only [List.data_toByteArray, List.toList_toArray] at hlist
    rw [hlist]
    exact mem_unescape hc h
  obtain ⟨d, hd, hbyte⟩ := List.mem_flatMap.1 hmem
  have hcode : c.toNat ≤ 32 := hc
  rwa [← Char.toNat_inj.1 (toNat_of_mem_utf8EncodeChar (by omega) hbyte)]

end

namespace Punycode

theorem subset_of_put? {reading next : Reading} (h : reading.put? = some next) :
    reading.label ⊆ next.label := by
  obtain ⟨_, _, h⟩ := Option.bind_eq_some_iff.1 h
  obtain rfl := Option.some.inj h
  intro c hc
  dsimp only
  rw [← List.take_append_drop ((reading.index + reading.delta) % (reading.label.length + 1))
    reading.label] at hc
  rcases List.mem_append.1 hc with hc | hc
  · exact List.mem_append_left _ hc
  · exact List.mem_append_right _ (List.mem_cons_of_mem _ hc)

/-- What is read behind the hyphen are digits, and no character that was read before is lost. -/
theorem subset_of_read {reading : Reading} {cs label : List Char}
    (h : read reading cs = some label) :
    reading.label ⊆ label ∧ ∀ c ∈ cs, digitOf? c ≠ none := by
  induction cs generalizing reading with
  | nil =>
      rw [read] at h
      split_ifs at h
      exact ⟨Option.some.inj h ▸ List.Subset.refl _, by simp⟩
  | cons c cs ih =>
      simp only [read, Option.bind_eq_bind, Option.bind_eq_some_iff] at h
      obtain ⟨digit, hdigit, h⟩ := h
      have hfirst : digitOf? c ≠ none := by simp [hdigit]
      split_ifs at h
      · split at h
        · next next hput =>
            obtain ⟨hlabel, hdigits⟩ := ih h
            have hkept := subset_of_put? hput
            exact ⟨List.Subset.trans hkept hlabel, List.forall_mem_cons.2 ⟨hfirst, hdigits⟩⟩
        · cases h
      · obtain ⟨hlabel, hdigits⟩ := ih h
        exact ⟨hlabel, List.forall_mem_cons.2 ⟨hfirst, hdigits⟩⟩

section

variable {c : Char} (hc : c ≤ ' ') {cs : List Char}
include hc

theorem not_read (hmem : c ∈ cs) (reading : Reading) : read reading cs = none := by
  refine Option.eq_none_iff_forall_ne_some.2 fun label h => ?_
  exact (subset_of_read h).2 c hmem (digitOf?_of_low hc)

/-- A character is in front of the last hyphen or behind it. -/
theorem mem_front_or_back (hmem : c ∈ cs) :
    c ∈ cs.take (cs.length - (cs.reverse.takeWhile (· ≠ '-')).length - 1) ∨
      c ∈ (cs.reverse.takeWhile (· ≠ '-')).reverse := by
  have hsplit := List.takeWhile_append_dropWhile (p := (· ≠ '-')) (l := cs.reverse)
  cases hrest : cs.reverse.dropWhile (· ≠ '-') with
  | nil =>
      right
      rw [hrest, List.append_nil] at hsplit
      rw [hsplit, List.reverse_reverse]
      exact hmem
  | cons d rest =>
      have hhyphen : d = '-' := by
        have hstop := List.head?_dropWhile_not (· ≠ '-') cs.reverse
        rw [hrest] at hstop
        simpa using hstop
      rw [hrest, hhyphen] at hsplit
      generalize cs.reverse.takeWhile (· ≠ '-') = back at hsplit ⊢
      have hwhole : cs = rest.reverse ++ '-' :: back.reverse := by
        rw [← List.reverse_reverse cs, ← hsplit]
        simp
      have hfront : cs.take (cs.length - back.length - 1) = rest.reverse := by
        rw [hwhole]
        apply List.take_left'
        simp only [List.length_append, List.length_cons, List.length_reverse]
        omega
      rw [hfront]
      rw [hwhole, List.mem_append, List.mem_cons] at hmem
      rcases hmem with h | h | h
      · exact .inl h
      · exact absurd h (ne_of_low hc (by decide))
      · exact .inr h

theorem mem_of_decode? {label : List Char} (h : decode? cs = some label) (hmem : c ∈ cs) :
    c ∈ label := by
  simp only [decode?] at h
  split_ifs at h with hascii hfront
  · rw [not_read hc hmem] at h
    cases h
  · rcases mem_front_or_back hc hmem with hin | hin
    · exact (subset_of_read h).1 hin
    · rw [not_read hc hin] at h
      cases h

omit hc in
theorem mem_encode (hascii : c.toNat < 0x80) (h : c ∈ cs) : c ∈ encode cs :=
  List.mem_append_left _ (List.mem_append_left _ (List.mem_filter.2 ⟨h, by simpa using hascii⟩))

end
end Punycode

section

variable {c : Char} (hc : c ≤ ' ') {cs : List Char}
include hc

theorem mem_of_shownLabel? {label : List Char} (h : shownLabel? cs = some label) (hmem : c ∈ cs) :
    c ∈ label := by
  rw [shownLabel?] at h
  by_cases hmark : encodedMark.isPrefixOf cs = true
  · rw [if_pos hmark] at h
    obtain ⟨rest, rfl⟩ := List.isPrefixOf_iff_prefix.1 hmark
    have hrest : c ∈ rest := by
      rcases List.mem_append.1 hmem with hin | hin
      · have hletters : encodedMark.all (' ' < ·) = true := by decide
        have hhigh := List.all_eq_true.1 hletters c hin
        exact absurd rfl (ne_of_low hc (of_decide_eq_true hhigh))
      · exact hin
    obtain ⟨shown, hshown, h⟩ := Option.bind_eq_some_iff.1 h
    obtain ⟨_, _, h⟩ := Option.bind_eq_some_iff.1 h
    obtain rfl := Option.some.inj h
    rw [List.drop_left] at hshown
    exact Punycode.mem_of_decode? hc hshown hrest
  · rw [if_neg hmark] at h
    obtain ⟨_, _, h⟩ := Option.bind_eq_some_iff.1 h
    exact Option.some.inj h ▸ hmem

theorem mem_asciiLabel (h : c ∈ cs) : c ∈ asciiLabel cs := by
  have hcode : c.toNat ≤ 32 := hc
  rw [asciiLabel]
  split_ifs
  · exact h
  · exact List.mem_append_right _ (Punycode.mem_encode (by omega) h)

omit hc in
theorem exists_mem_of_mapM {α β : Type} {f : α → Option β} {as : List α} {bs : List β}
    (h : as.mapM f = some bs) {a : α} (ha : a ∈ as) : ∃ b ∈ bs, f a = some b := by
  induction as generalizing bs with
  | nil => cases ha
  | cons first as ih =>
      simp only [List.mapM_cons, Option.bind_eq_bind, Option.bind_eq_some_iff] at h
      obtain ⟨b, hb, rest, hrest, h⟩ := h
      obtain rfl := Option.some.inj h
      rcases List.mem_cons.1 ha with rfl | ha
      · exact ⟨b, List.mem_cons_self, hb⟩
      · obtain ⟨other, hother, heq⟩ := ih hrest ha
        exact ⟨other, List.mem_cons_of_mem _ hother, heq⟩

omit hc in
theorem exists_part (hdot : c ≠ '.') (h : c ∈ cs) : ∃ part ∈ Text.splitOn '.' cs, c ∈ part := by
  induction cs with
  | nil => cases h
  | cons d cs ih =>
      rw [Text.splitOn]
      split_ifs with hseparator
      · rcases List.mem_cons.1 h with rfl | h
        · exact absurd hseparator hdot
        · obtain ⟨part, hpart, hin⟩ := ih h
          exact ⟨part, List.mem_cons_of_mem _ hpart, hin⟩
      · cases hparts : Text.splitOn '.' cs with
        | nil => exact absurd hparts (Text.splitOn_ne_nil _ _)
        | cons first parts =>
            rw [hparts] at ih
            rcases List.mem_cons.1 h with rfl | h
            · exact ⟨_, List.mem_cons_self, List.mem_cons_self⟩
            · obtain ⟨part, hpart, hin⟩ := ih h
              rcases List.mem_cons.1 hpart with rfl | hpart
              · exact ⟨_, List.mem_cons_self, List.mem_cons_of_mem _ hin⟩
              · exact ⟨part, List.mem_cons_of_mem _ hpart, hin⟩

omit hc in
theorem mem_intercalate {parts : List (List Char)} {part : List Char} (hpart : part ∈ parts)
    (h : c ∈ part) (separator : List Char) : c ∈ List.intercalate separator parts := by
  induction parts with
  | nil => cases hpart
  | cons first parts ih =>
      cases parts with
      | nil =>
          rw [List.intercalate_singleton]
          exact List.mem_singleton.1 hpart ▸ h
      | cons second parts =>
          rw [List.intercalate_cons_cons]
          rcases List.mem_cons.1 hpart with rfl | hpart
          · simp [h]
          · simp [ih hpart]

theorem exists_shown_label {labels : List (List Char)} (h : shownLabels? cs = some labels)
    (hmem : c ∈ cs) : ∃ label ∈ labels, c ∈ label := by
  obtain ⟨mapped, hmapped, h⟩ := Option.bind_eq_some_iff.1 h
  obtain ⟨shown, hshown, h⟩ := Option.bind_eq_some_iff.1 h
  obtain ⟨_, _, h⟩ := Option.bind_eq_some_iff.1 h
  obtain rfl := Option.some.inj h
  obtain ⟨image, himage, heq⟩ := exists_mem_of_mapM hmapped hmem
  rw [mapped?_of_low hc] at heq
  have hflat : c ∈ mapped.flatten :=
    List.mem_flatten.2 ⟨image, himage, Option.some.inj heq ▸ List.mem_singleton_self c⟩
  have htext :
      c ∈ if isAscii mapped.flatten then mapped.flatten else Text.normal mapped.flatten := by
    split_ifs
    · exact hflat
    · exact Text.mem_normal hc hflat
  obtain ⟨part, hpart, hin⟩ := exists_part (ne_of_low hc (by decide)) htext
  obtain ⟨label, hlabel, heq⟩ := exists_mem_of_mapM hshown hpart
  exact ⟨label, hlabel, mem_of_shownLabel? hc heq hin⟩

theorem asciiDomain?_eq_none (h : c ∈ cs) : asciiDomain? cs = none := by
  refine Option.eq_none_iff_forall_ne_some.2 fun name hname => ?_
  obtain ⟨labels, hlabels, hname⟩ := Option.bind_eq_some_iff.1 hname
  obtain ⟨_, hguard, -⟩ := Option.bind_eq_some_iff.1 hname
  obtain ⟨label, hlabel, hin⟩ := exists_shown_label hc hlabels h
  have hwhole : c ∈ List.intercalate ['.'] (labels.map asciiLabel) :=
    mem_intercalate (List.mem_map_of_mem hlabel) (mem_asciiLabel hc hin) _
  have hany : (List.intercalate ['.'] (labels.map asciiLabel)).any isForbidden = true :=
    List.any_eq_true.2 ⟨c, hwhole, isForbidden_of_low hc⟩
  rw [hany, Bool.not_true, guard, if_neg Bool.false_ne_true] at hguard
  cases hguard

theorem named_ne_ok (h : c ∈ cs) (host : Host) : Host.named cs ≠ .ok host := by
  intro hok
  have hnone : (unescapedText? cs).bind (fun text => asciiDomain? text.toList) = none := by
    cases htext : unescapedText? cs with
    | none => rfl
    | some text => exact asciiDomain?_eq_none hc (mem_unescapedText? hc htext h)
  rw [Host.named, hnone] at hok
  cases hok

end
end Url
end Enrolment

import Mathlib.Data.List.TakeDrop
import Enrolment.Proofs.Url.Name

/-!
What stands in front of the path of a URL whose scheme names hosts: it is read by its host, which
has to be there, and by its port, behind which nothing may be left.
-/

namespace Enrolment
namespace Url

section Cut

theorem mem_of_mem_cutAtLast (separator : Char) {cs : List Char} {c : Char}
    (hmem : c ∈ (Text.cutAtLast separator cs).2) : c ∈ cs := by
  induction cs with
  | nil => exact hmem
  | cons d cs ih =>
      rw [Text.cutAtLast] at hmem
      split at hmem
      · next front back hcut => exact List.mem_cons_of_mem _ (ih (by rwa [hcut]))
      · next back hcut =>
          split_ifs at hmem
          · exact List.mem_cons_of_mem _ (ih (by rwa [hcut]))
          · rcases List.mem_cons.mp hmem with rfl | hmem
            · exact List.mem_cons_self
            · exact List.mem_cons_of_mem _ (ih (by rwa [hcut]))

theorem mem_of_mem_cutAtPort {bracketed : Bool} {cs port : List Char}
    (hcut : (cutAtPort bracketed cs).2 = some port) {c : Char} (hmem : c ∈ port) : c ∈ cs := by
  induction cs generalizing bracketed with
  | nil => simp [cutAtPort] at hcut
  | cons d cs ih =>
      rw [cutAtPort] at hcut
      split_ifs at hcut
      · cases hcut
        exact List.mem_cons_of_mem _ hmem
      · exact List.mem_cons_of_mem _ (ih hcut)

end Cut

section Special

variable {scheme : String} {cs : List Char} {found : Authority}

/-- The text of the host in an authority, and that of the port if there is one. -/
def placed (cs : List Char) : List Char × Option (List Char) :=
  cutAtPort false (Text.cutAtLast '@' cs).2

def portOf (scheme : String) : Option (List Char) → Except UrlError (Option Nat × List Char)
  | some text => readPort scheme text
  | none => .ok (none, [])

theorem leftover_of_readPort {text leftover : List Char} {port : Option Nat}
    (hread : readPort scheme text = .ok (port, leftover)) :
    leftover = text.dropWhile Char.isDigit ∧ (leftover = [] ∨ leftover.head? = some '\\') := by
  rw [readPort, List.span_eq_takeWhile_dropWhile] at hread
  dsimp only at hread
  split at hread
  · next digits n hnone hnumber =>
      split_ifs at hread
      · cases hread
        exact ⟨rfl, .inl hnone⟩
      · cases hread
        exact ⟨rfl, .inl hnone⟩
  · next digits n more hleft hnumber =>
      split_ifs at hread
      · cases hread
        exact ⟨rfl, .inr (by rw [hleft]; rfl)⟩
      · cases hread
        exact ⟨rfl, .inr (by rw [hleft]; rfl)⟩
  · cases hread

theorem authority_eq_ok_iff (hspecial : (standardPort? scheme).isSome = true) (followed : Bool) :
    authority scheme followed cs = .ok found ↔
      (∃ host, Host.parse (placed cs).1 = .ok host ∧ found.host = some host) ∧
        portOf scheme (placed cs).2 = .ok (found.port, found.leftover) ∧
        (found.user, found.password) =
          credentials ((Text.cutAtLast '@' cs).1.getD []) := by
  unfold authority placed
  cases Text.cutAtLast '@' cs with
  | mk before place =>
  cases hnamed : Host.parse (cutAtPort false place).1 with
  | error reason =>
      simp only [hspecial, hnamed, if_true]
      split_ifs <;> simp [throw, throwThe, MonadExceptOf.throw, bind, Except.bind]
  | ok host =>
      have hne : place ≠ [] := by
        rintro rfl
        cases hnamed
      obtain ⟨user, password, foundHost, port, leftover⟩ := found
      cases hport : (cutAtPort false place).2 with
      | none =>
          simp [hspecial, hnamed, hne, hport, portOf, bind, Except.bind, pure, Except.pure]
          grind
      | some text =>
          cases hread : readPort scheme text <;>
            simp [hspecial, hnamed, hne, hport, hread, portOf, bind, Except.bind, pure, Except.pure]
          grind

theorem authority_followed (hspecial : (standardPort? scheme).isSome = true) {followed : Bool}
    (hok : authority scheme followed cs = .ok found) (anyway : Bool) :
    authority scheme anyway cs = .ok found :=
  (authority_eq_ok_iff hspecial anyway).mpr ((authority_eq_ok_iff hspecial followed).mp hok)

theorem ne_nil_of_authority (hspecial : (standardPort? scheme).isSome = true) {followed : Bool}
    (hok : authority scheme followed cs = .ok found) : cs ≠ [] := by
  rintro rfl
  obtain ⟨⟨host, hnamed, -⟩, -⟩ := (authority_eq_ok_iff hspecial followed).mp hok
  cases hnamed

/-- Behind the port nothing is left where the text ends at the first slash of either kind. -/
theorem leftover_of_authority (hspecial : (standardPort? scheme).isSome = true) {followed : Bool}
    (hslashless : ∀ c ∈ cs, isSlash true c = false)
    (hok : authority scheme followed cs = .ok found) : found.leftover = [] := by
  obtain ⟨-, hread, -⟩ := (authority_eq_ok_iff hspecial followed).mp hok
  cases hport : (placed cs).2 with
  | none =>
      simp only [hport, portOf, Except.ok.injEq, Prod.mk.injEq] at hread
      exact hread.2.symm
  | some text =>
      rw [hport, portOf] at hread
      obtain ⟨heq, hempty | hbackslash⟩ := leftover_of_readPort hread
      · exact hempty
      · have hmem : '\\' ∈ text :=
          (List.dropWhile_sublist _).subset (heq ▸ List.mem_of_mem_head? hbackslash)
        have hslash := hslashless _ (mem_of_mem_cutAtLast '@' (mem_of_mem_cutAtPort hport hmem))
        cases hslash

end Special

section Blank

variable {blanks : List Char} (hblanks : ∀ c ∈ blanks, c ≤ ' ')
include hblanks

theorem cutAtLast_append (cs : List Char) : Text.cutAtLast '@' (cs ++ blanks) =
    ((Text.cutAtLast '@' cs).1, (Text.cutAtLast '@' cs).2 ++ blanks) := by
  induction cs with
  | nil =>
      induction blanks with
      | nil => rfl
      | cons c blanks ih =>
          have hne : c ≠ '@' := ne_of_low (hblanks c List.mem_cons_self) (by decide)
          have htail := ih fun d hd => hblanks d (List.mem_cons_of_mem _ hd)
          simp only [List.nil_append, Text.cutAtLast] at htail ⊢
          simp [htail, hne]
  | cons c cs ih =>
      rw [List.cons_append, Text.cutAtLast, ih, Text.cutAtLast]
      rcases Text.cutAtLast '@' cs with ⟨_ | front, back⟩
      · dsimp only
        split_ifs <;> rfl
      · rfl

theorem cutAtPort_blanks (bracketed : Bool) : cutAtPort bracketed blanks = (blanks, none) := by
  induction blanks generalizing bracketed with
  | nil => rfl
  | cons c blanks ih =>
      have hne : c ≠ ':' := ne_of_low (hblanks c List.mem_cons_self) (by decide)
      have htail := ih fun d hd => hblanks d (List.mem_cons_of_mem _ hd)
      simp [cutAtPort, hne, htail]

/-- Blanks behind an authority belong to its port, or to its host if there is no port. -/
theorem cutAtPort_append (bracketed : Bool) (cs : List Char) :
    cutAtPort bracketed (cs ++ blanks) =
      match (cutAtPort bracketed cs).2 with
      | some port => ((cutAtPort bracketed cs).1, some (port ++ blanks))
      | none => ((cutAtPort bracketed cs).1 ++ blanks, none) := by
  induction cs generalizing bracketed with
  | nil => simp [cutAtPort, cutAtPort_blanks hblanks]
  | cons c cs ih =>
      rw [List.cons_append, cutAtPort, cutAtPort]
      split_ifs with hcolon
      · rfl
      · dsimp only
        rw [ih]
        cases (cutAtPort (c = '[' || (bracketed && c ≠ ']')) cs).2 <;> rfl

theorem bracketed_append_ne_ok (hne : blanks ≠ []) (cs : List Char) (host : Host) :
    Host.bracketed (cs ++ blanks) ≠ .ok host := by
  have hlast : (cs ++ blanks).getLast? = some (blanks.getLast hne) := by
    rw [List.getLast?_append, List.getLast?_eq_some_getLast hne, Option.some_or]
  have hbracket : blanks.getLast hne ≠ ']' :=
    ne_of_low (hblanks _ (List.getLast_mem hne)) (by decide)
  rw [Host.bracketed, hlast]
  split
  · next hshut _ => exact absurd (Option.some.inj hshut) hbracket
  · rintro ⟨⟩

theorem parse_append_ne_ok (hne : blanks ≠ []) {name : List Char} (hname : name ≠ [])
    (host : Host) : Host.parse (name ++ blanks) ≠ .ok host := by
  obtain ⟨first, rest, rfl⟩ := List.exists_cons_of_ne_nil hname
  rw [List.cons_append, Host.parse.eq_def]
  split
  · next hempty => cases hempty
  · next hcons =>
      cases hcons
      exact bracketed_append_ne_ok hblanks hne rest host
  · obtain ⟨c, more, rfl⟩ := List.exists_cons_of_ne_nil hne
    exact named_ne_ok (hblanks c List.mem_cons_self) (by simp) host

theorem readPort_append_ne_ok (hne : blanks ≠ []) {scheme : String} {port : List Char}
    (hport : port.dropWhile Char.isDigit = []) (read : Option Nat × List Char) :
    readPort scheme (port ++ blanks) ≠ .ok read := by
  obtain ⟨c, more, rfl⟩ := List.exists_cons_of_ne_nil hne
  have hc : c ≤ ' ' := hblanks c List.mem_cons_self
  have hdigit : c.isDigit = false := Text.forall_low (P := fun c => c.isDigit = false) (by decide) hc
  intro hread
  obtain ⟨hleft, hend⟩ := leftover_of_readPort hread
  rw [List.dropWhile_append, hport, List.isEmpty_nil, if_pos rfl,
    List.dropWhile_cons_of_neg (by simp [hdigit])] at hleft
  rcases hend with hend | hend
  · rw [hend] at hleft
    cases hleft
  · rw [hleft] at hend
    exact ne_of_low hc (by decide) (Option.some.inj hend)

/-- Where blanks stand behind the place of a URL it has no host any more. -/
theorem authority_append_ne_ok {scheme : String} {cs : List Char} {found other : Authority}
    {followed anyway : Bool} (hspecial : (standardPort? scheme).isSome = true)
    (hslashless : ∀ c ∈ cs, isSlash true c = false)
    (hok : authority scheme followed cs = .ok found) (hne : blanks ≠ []) :
    authority scheme anyway (cs ++ blanks) ≠ .ok other := by
  intro hagain
  have hnone := leftover_of_authority hspecial hslashless hok
  obtain ⟨⟨host, hnamed, -⟩, hread, -⟩ := (authority_eq_ok_iff hspecial followed).mp hok
  obtain ⟨⟨host', hnamed', -⟩, hread', -⟩ := (authority_eq_ok_iff hspecial anyway).mp hagain
  have hplaced : placed (cs ++ blanks) =
      match (placed cs).2 with
      | some port => ((placed cs).1, some (port ++ blanks))
      | none => ((placed cs).1 ++ blanks, none) := by
    rw [placed, cutAtLast_append hblanks, cutAtPort_append hblanks, placed]
  cases hport : (placed cs).2 with
  | none =>
      have hname : (placed cs).1 ≠ [] := by
        intro hempty
        rw [hempty] at hnamed
        cases hnamed
      rw [hplaced, hport] at hnamed'
      exact parse_append_ne_ok hblanks hne hname host' hnamed'
  | some port =>
      rw [hport, portOf, hnone] at hread
      rw [hplaced, hport] at hread'
      exact readPort_append_ne_ok hblanks hne (leftover_of_readPort hread).1.symm _ hread'

end Blank
end Url
end Enrolment

import Enrolment.Json.Grammar
import Mathlib.Data.List.Chain
import Mathlib.Data.List.TakeWhile
import Mathlib.Tactic.IntervalCases

/-!
The scanner follows the grammar of tokens. For each part of a token there are two lemmas: what is
taken off the front of a text is a spelling, and a spelling is taken off as a whole, if the text
does not go on with more of the same. Only a number can go on: so a sequence of tokens is scanned
wherever it is written, as long as no two numbers in it are neighbours.
-/

namespace Enrolment
namespace Json

/-- All hexadecimal digits are among the first characters. -/
theorem lt_of_hexDigit? {c : Char} {n : Nat} (h : Text.hexDigit? c = some n) :
    c.toNat < 103 ∧ n < 16 := by
  simp only [Text.hexDigit?, Char.le_def, UInt32.le_iff_toNat_le, Char.reduceVal, Char.reduceToNat,
    UInt32.reduceToNat, Char.toNat_val] at h
  split at h
  · cases h
    omega
  · split at h
    · cases h
      omega
    · split at h
      · cases h
        omega
      · cases h

theorem hexDigit?_eq_some_iff {c : Char} {n : Nat} :
    Text.hexDigit? c = some n ↔ HexDigit c n := by
  constructor
  · intro h
    obtain ⟨hc, hn⟩ := lt_of_hexDigit? h
    -- Both are bounded, so that all cases can be tried.
    have hall : ∀ k < 103, ∀ n < 16, Text.hexDigit? (Char.ofNat k) = some n →
        HexDigit (Char.ofNat k) n := by
      unfold HexDigit
      decide
    have hdigit := hall c.toNat hc n hn
    rw [Char.ofNat_toNat] at hdigit
    exact hdigit h
  · intro h
    have hn : n < 16 := by
      rcases h with h | h <;> simpa using (List.getElem?_eq_some_iff.1 h).1
    interval_cases n <;> rcases h with h | h <;> cases h <;> rfl

theorem escape?_eq_some_iff {letter c : Char} :
    escape? letter = some c ↔ (letter, c) ∈ escapes := by
  constructor
  · intro h
    unfold escape? at h
    split at h <;> cases h <;> decide
  · intro h
    simp only [escapes, List.mem_cons, Prod.mk.injEq, List.not_mem_nil, or_false] at h
    rcases h with ⟨rfl, rfl⟩ | ⟨rfl, rfl⟩ | ⟨rfl, rfl⟩ | ⟨rfl, rfl⟩ | ⟨rfl, rfl⟩ | ⟨rfl, rfl⟩ |
      ⟨rfl, rfl⟩ | ⟨rfl, rfl⟩ <;> rfl

theorem isDigit_iff {c : Char} : c.isDigit = true ↔ '0' ≤ c ∧ c ≤ '9' := by
  rw [Char.isDigit, Bool.and_eq_true, decide_eq_true_eq, decide_eq_true_eq]
  rfl

theorem isSpace_iff {c : Char} : isSpace c = true ↔ c ∈ [' ', '\t', '\n', '\r'] := by
  simp [isSpace, or_assoc]

section
variable {pieces : List Piece} {cs rest text : List Char}

theorem stringBody_eq_some_iff : Token.stringBody cs = some (pieces, rest) ↔
    ∃ text, SpelledPieces pieces text ∧ cs = text ++ '"' :: rest := by
  constructor
  · intro h
    fun_induction Token.stringBody cs generalizing pieces with
    | case1 => cases h
    | case2 cs =>
        cases h
        exact ⟨[], .nil, rfl⟩
    | case3 a b c d cs ih =>
        simp only [Option.bind_eq_bind, Option.bind_eq_some_iff, Option.pure_def, Option.some.injEq,
          Prod.mk.injEq, Prod.exists] at h
        obtain ⟨i, ha, j, hb, k, hc, l, hd, pieces, _, hbody, rfl, rfl⟩ := h
        obtain ⟨text, hpieces, rfl⟩ := ih hbody
        simp only [hexDigit?_eq_some_iff] at ha hb hc hd
        exact ⟨_, .cons (.unit ha hb hc hd) hpieces, rfl⟩
    | case4 c cs _ ih =>
        simp only [Option.bind_eq_bind, Option.bind_eq_some_iff, Option.pure_def, Option.some.injEq,
          Prod.mk.injEq, Prod.exists] at h
        obtain ⟨c, hc, pieces, _, hbody, rfl, rfl⟩ := h
        obtain ⟨text, hpieces, rfl⟩ := ih hbody
        exact ⟨_, .cons (.escape (escape?_eq_some_iff.1 hc)) hpieces, rfl⟩
    | case5 => cases h
    | case6 c cs hquote _ _ hplain ih =>
        simp only [Option.bind_eq_bind, Option.bind_eq_some_iff, Option.pure_def, Option.some.injEq,
          Prod.mk.injEq, Prod.exists] at h
        obtain ⟨pieces, _, hbody, rfl, rfl⟩ := h
        obtain ⟨text, hpieces, rfl⟩ := ih hbody
        simp only [Bool.or_eq_true, decide_eq_true_eq, not_or] at hplain
        exact ⟨_, .cons (.plain (Char.not_lt.1 hplain.1) hquote hplain.2) hpieces, rfl⟩
  · rintro ⟨text, hpieces, rfl⟩
    induction hpieces with
    | nil => rfl
    | cons h _ ih =>
        cases h with
        | plain hcontrol hquote hslash =>
            simp [Token.stringBody, hslash, Char.not_lt.2 hcontrol, ih]
        | @escape letter c h =>
            have hu : letter ≠ 'u' := by
              rintro rfl
              revert h
              simp [escapes]
            simp [Token.stringBody, hu, escape?_eq_some_iff.2 h, ih]
        | unit ha hb hc hd =>
            simp only [← hexDigit?_eq_some_iff] at ha hb hc hd
            simp [Token.stringBody, ha, hb, hc, hd, ih]

theorem digits_iff {ds : List Char} : Digits ds ↔ ds ≠ [] ∧ ∀ d ∈ ds, d.isDigit = true := by
  simp only [Digits, isDigit_iff]

theorem Digits.exists_cons {ds : List Char} (h : Digits ds) :
    ∃ d others, ds = d :: others ∧ d.isDigit = true := by
  obtain ⟨hne, hall⟩ := digits_iff.1 h
  obtain ⟨d, others, rfl⟩ := List.exists_cons_of_ne_nil hne
  exact ⟨d, others, rfl, hall d List.mem_cons_self⟩

theorem digits_sound {ds : List Char} (h : Token.digits cs = (ds, rest)) (hne : ds ≠ []) :
    Digits ds ∧ cs = ds ++ rest := by
  obtain ⟨rfl, rfl⟩ := Prod.mk.inj h
  exact ⟨digits_iff.2 ⟨hne, fun _ => List.mem_takeWhile_imp⟩,
    List.takeWhile_append_dropWhile.symm⟩

theorem digits_append {ds : List Char} (h : Digits ds)
    (hrest : ∀ c ∈ rest.head?, c.isDigit = false) : Token.digits (ds ++ rest) = (ds, rest) := by
  have hall := (digits_iff.1 h).2
  have hstop : rest.takeWhile Char.isDigit = [] ∧ rest.dropWhile Char.isDigit = rest := by
    cases rest with
    | nil => exact ⟨rfl, rfl⟩
    | cons c rest =>
        have hc : ¬c.isDigit = true := by simp [hrest c rfl]
        exact ⟨List.takeWhile_cons_of_neg hc, List.dropWhile_cons_of_neg hc⟩
  rw [Token.digits, List.takeWhile_append_of_pos hall, List.dropWhile_append_of_pos hall, hstop.1,
    hstop.2, List.append_nil]

theorem wholePart_sound {whole : List Char} (h : Token.wholePart cs = some (whole, rest)) :
    SpelledWhole whole ∧ cs = whole ++ rest := by
  have hzero : SpelledWhole ['0'] := ⟨digits_iff.2 ⟨List.cons_ne_nil _ _, by simp⟩, fun _ => rfl⟩
  unfold Token.wholePart at h
  split at h
  · split at h
    · split at h <;> cases h
      exact ⟨hzero, rfl⟩
    · cases h
      exact ⟨hzero, rfl⟩
  · next hhead =>
      split at h
      · cases h
      · next hne hdigits =>
          cases h
          obtain ⟨hwhole, rfl⟩ := digits_sound hdigits hne
          refine ⟨⟨hwhole, fun hzero => ?_⟩, rfl⟩
          obtain ⟨ds, rfl⟩ := List.head?_eq_some_iff.1 hzero
          exact absurd rfl (hhead _)

theorem wholePart_append {whole : List Char} (h : SpelledWhole whole)
    (hrest : ∀ c ∈ rest.head?, c.isDigit = false) :
    Token.wholePart (whole ++ rest) = some (whole, rest) := by
  have hdigits := digits_append h.1 hrest
  obtain ⟨d, ds, rfl, -⟩ := h.1.exists_cons
  by_cases hd : d = '0'
  · subst hd
    obtain rfl : ds = [] := (List.cons.inj (h.2 rfl)).2
    cases rest with
    | nil => rfl
    | cons c rest => simp [Token.wholePart, hrest c rfl]
  · rw [List.cons_append] at hdigits ⊢
    rw [Token.wholePart, hdigits]
    simpa using hd

theorem fractionPart_sound {fraction : Option (List Char)}
    (h : Token.fractionPart cs = some (fraction, rest)) :
    ∃ text, SpelledFraction fraction text ∧ cs = text ++ rest := by
  unfold Token.fractionPart at h
  split at h
  · split at h
    · cases h
    · next hne hdigits =>
        cases h
        obtain ⟨hds, rfl⟩ := digits_sound hdigits hne
        exact ⟨_, .some hds, rfl⟩
  · cases h
    exact ⟨_, .none, rfl⟩

theorem fractionPart_append {fraction : Option (List Char)} (h : SpelledFraction fraction text)
    (hdigit : ∀ c ∈ rest.head?, c.isDigit = false) (hpoint : rest.head? ≠ some '.') :
    Token.fractionPart (text ++ rest) = some (fraction, rest) := by
  cases h with
  | none =>
      cases rest with
      | nil => rfl
      | cons c rest =>
          have hc : c ≠ '.' := fun heq => hpoint (congrArg some heq)
          simp [Token.fractionPart, hc]
  | some hds =>
      rw [List.cons_append, Token.fractionPart, digits_append hds hdigit]
      obtain ⟨d, ds, rfl, -⟩ := hds.exists_cons
      rfl

theorem exponentDigits_sound {negative : Bool} {exponent : Option (Bool × List Char)}
    (h : Token.exponentDigits negative cs = some (exponent, rest)) :
    ∃ ds, Digits ds ∧ exponent = some (negative, ds) ∧ cs = ds ++ rest := by
  unfold Token.exponentDigits at h
  split at h
  · cases h
  · next hne hdigits =>
      cases h
      obtain ⟨hds, rfl⟩ := digits_sound hdigits hne
      exact ⟨_, hds, rfl, rfl⟩

theorem exponentPart_sound {exponent : Option (Bool × List Char)}
    (h : Token.exponentPart cs = some (exponent, rest)) :
    ∃ text, SpelledExponent exponent text ∧ cs = text ++ rest := by
  unfold Token.exponentPart at h
  split at h
  · split at h
    · next he =>
        simp only [Bool.or_eq_true, decide_eq_true_eq] at he
        split at h
        all_goals
          obtain ⟨ds, hds, rfl, rfl⟩ := exponentDigits_sound h
        · exact ⟨_, .some he .plus hds, rfl⟩
        · exact ⟨_, .some he .minus hds, rfl⟩
        · exact ⟨_, .some he .none hds, rfl⟩
    · cases h
      exact ⟨_, .none, rfl⟩
  · cases h
    exact ⟨_, .none, rfl⟩

/-- How text does not go on behind a number. -/
def EndsNumber (rest : List Char) : Prop :=
  ∀ c ∈ rest.head?, c.isDigit = false ∧ c ∉ ['.', 'e', 'E']

theorem EndsNumber.isDigit (h : EndsNumber rest) : ∀ c ∈ rest.head?, c.isDigit = false :=
  fun c hc => (h c hc).1

theorem exponentDigits_append {negative : Bool} {ds : List Char} (h : Digits ds)
    (hrest : EndsNumber rest) :
    Token.exponentDigits negative (ds ++ rest) = some (some (negative, ds), rest) := by
  rw [Token.exponentDigits, digits_append h hrest.isDigit]
  obtain ⟨d, ds, rfl, -⟩ := h.exists_cons
  rfl

theorem exponentPart_append {exponent : Option (Bool × List Char)}
    (h : SpelledExponent exponent text) (hrest : EndsNumber rest) :
    Token.exponentPart (text ++ rest) = some (exponent, rest) := by
  cases h with
  | none =>
      cases rest with
      | nil => rfl
      | cons c rest =>
          have hc := (hrest c rfl).2
          simp only [List.mem_cons, List.not_mem_nil, or_false, not_or] at hc
          simp [Token.exponentPart, hc.2]
  | @some e negative sign ds he hsign hds =>
      have hdigits : ∀ negative, Token.exponentDigits negative (ds ++ rest) =
          some (some (negative, ds), rest) := fun _ => exponentDigits_append hds hrest
      cases hsign with
      | plus => simp [Token.exponentPart, he, hdigits]
      | minus => simp [Token.exponentPart, he, hdigits]
      | none =>
          obtain ⟨d, ds, rfl, hd⟩ := hds.exists_cons
          -- The exponent has no sign, and its first digit is none either.
          have hsign : ∀ c ∈ ['+', '-'], ∀ cs, d :: (ds ++ rest) = c :: cs → False := by
            rintro c hc cs heq
            obtain ⟨rfl, -⟩ := List.cons.inj heq
            simp only [List.mem_cons, List.not_mem_nil, or_false] at hc
            rcases hc with rfl | rfl <;> cases hd
          rw [List.nil_append, List.cons_append, List.cons_append, Token.exponentPart]
          · simpa [he] using hdigits false
          · exact hsign _ (by decide)
          · exact hsign _ (by decide)

theorem head?_exponent {exponent : Option (Bool × List Char)} (h : SpelledExponent exponent text)
    (hrest : EndsNumber rest) : ∀ c ∈ (text ++ rest).head?, c.isDigit = false ∧ c ≠ '.' := by
  intro c hc
  cases h with
  | none =>
      obtain ⟨hdigit, hother⟩ := hrest c hc
      exact ⟨hdigit, fun heq => hother (heq ▸ List.mem_cons_self)⟩
  | some he =>
      obtain rfl := Option.some.inj hc
      rcases he with rfl | rfl <;> decide

theorem head?_fraction {fraction : Option (List Char)} (h : SpelledFraction fraction text)
    (hrest : ∀ c ∈ rest.head?, c.isDigit = false) :
    ∀ c ∈ (text ++ rest).head?, c.isDigit = false := by
  cases h with
  | none => exact hrest
  | some =>
      intro c hc
      obtain rfl := Option.some.inj hc
      rfl

theorem unsignedNumber_sound {negative : Bool} {token : Token}
    (h : Token.unsignedNumber negative cs = some (token, rest)) :
    ∃ text, token.Spelled ((if negative then ['-'] else []) ++ text) ∧ cs = text ++ rest := by
  simp only [Token.unsignedNumber, Option.bind_eq_bind, Option.bind_eq_some_iff, Option.pure_def,
    Option.some.injEq, Prod.mk.injEq, Prod.exists] at h
  obtain ⟨whole, _, hwhole, fraction, _, hfraction, exponent, _, hexponent, rfl, rfl⟩ := h
  obtain ⟨hspelled, rfl⟩ := wholePart_sound hwhole
  obtain ⟨_, hspelled', rfl⟩ := fractionPart_sound hfraction
  obtain ⟨_, hspelled'', rfl⟩ := exponentPart_sound hexponent
  exact ⟨_, .number ⟨hspelled, hspelled', hspelled''⟩, by simp only [List.append_assoc]⟩

theorem unsignedNumber_append {negative : Bool} {whole cs' : List Char}
    {fraction : Option (List Char)} {exponent : Option (Bool × List Char)}
    (hwhole : SpelledWhole whole) (hfraction : SpelledFraction fraction cs)
    (hexponent : SpelledExponent exponent cs') (hrest : EndsNumber rest) :
    Token.unsignedNumber negative (whole ++ (cs ++ cs') ++ rest) =
      some (.number ⟨negative, whole, fraction, exponent⟩, rest) := by
  have hbehind := head?_exponent hexponent hrest
  have hdigit := head?_fraction hfraction fun c hc => (hbehind c hc).1
  have hpoint : (cs' ++ rest).head? ≠ some '.' := fun hc => (hbehind '.' hc).2 rfl
  simp [Token.unsignedNumber, wholePart_append hwhole hdigit,
    fractionPart_append hfraction (fun c hc => (hbehind c hc).1) hpoint,
    exponentPart_append hexponent hrest]

theorem first_of_isDigit {c : Char} (hc : c.isDigit = true) :
    Token.first (c :: cs) = Token.unsignedNumber false (c :: cs) := by
  rw [Token.first.eq_def]
  split
  case h_12 => rfl
  all_goals
    next hcons =>
      obtain ⟨rfl, _⟩ := List.cons.inj hcons
      cases hc

/-- The token in front is one that the text begins with a spelling of. -/
theorem first_sound {token : Token} (h : Token.first cs = some (token, rest)) :
    ∃ text, token.Spelled text ∧ cs = text ++ rest := by
  unfold Token.first at h
  split at h
  case h_10 =>
      obtain ⟨⟨pieces, _⟩, hbody, heq⟩ := Option.map_eq_some_iff.1 h
      cases heq
      obtain ⟨text, hpieces, rfl⟩ := stringBody_eq_some_iff.1 hbody
      exact ⟨_, .string hpieces, by simp⟩
  case h_11 =>
      obtain ⟨text, hspelled, rfl⟩ := unsignedNumber_sound h
      exact ⟨_, hspelled, rfl⟩
  case h_12 => exact unsignedNumber_sound h
  all_goals cases h
  · exact ⟨_, .openBrace, rfl⟩
  · exact ⟨_, .closeBrace, rfl⟩
  · exact ⟨_, .openBracket, rfl⟩
  · exact ⟨_, .closeBracket, rfl⟩
  · exact ⟨_, .colon, rfl⟩
  · exact ⟨_, .comma, rfl⟩
  · exact ⟨_, .null, rfl⟩
  · exact ⟨_, .true, rfl⟩
  · exact ⟨_, .false, rfl⟩

theorem first_number {numeral : Numeral} (h : numeral.Spelled text) (hrest : EndsNumber rest) :
    Token.first (text ++ rest) = some (.number numeral, rest) := by
  cases h with
  | @mk negative whole fraction exponent _ _ hwhole hfraction hexponent =>
      have hnumber : Token.unsignedNumber negative _ =
          some (.number ⟨negative, whole, fraction, exponent⟩, rest) :=
        unsignedNumber_append hwhole hfraction hexponent hrest
      cases negative with
      | true => exact hnumber
      | false =>
          obtain ⟨d, ds, rfl, hd⟩ := hwhole.1.exists_cons
          exact (first_of_isDigit hd).trans hnumber

def Token.isNumber : Token → Bool
  | number _ => true
  | _ => false

/-- Behind a number the text must not go on as one. -/
theorem first_append {token : Token} (h : token.Spelled text)
    (hrest : token.isNumber = true → EndsNumber rest) :
    Token.first (text ++ rest) = some (token, rest) := by
  cases h with
  | number hnumeral => exact first_number hnumeral (hrest rfl)
  | @string pieces cs hpieces =>
      have hbody : Token.stringBody (cs ++ '"' :: rest) = some (pieces, rest) :=
        stringBody_eq_some_iff.2 ⟨cs, hpieces, rfl⟩
      rw [List.cons_append, List.append_assoc, List.singleton_append, Token.first, hbody,
        Option.map_some]
  | _ => rfl

/-- What begins with a token does not begin with white space. -/
theorem isSpace_of_first {c : Char} {token : Token}
    (h : Token.first (c :: cs) = some (token, rest)) : isSpace c = false := by
  rw [Bool.eq_false_iff]
  intro hspace
  simp only [isSpace, Bool.or_eq_true, decide_eq_true_eq] at hspace
  rcases hspace with ((rfl | rfl) | rfl) | rfl <;> cases h

theorem scan_of_first {token : Token} (h : Token.first cs = some (token, rest)) :
    Token.scan cs = (Token.scan rest).map (token :: ·) := by
  cases cs with
  | nil => cases h
  | cons c cs =>
      have hdrop : (c :: cs).dropWhile isSpace = c :: cs :=
        List.dropWhile_cons_of_neg (by rw [isSpace_of_first h]; exact Bool.false_ne_true)
      rw [Token.scan]
      split
      · next hnil =>
          rw [hdrop] at hnil
          cases hnil
      · next c' cs' hcons =>
          obtain ⟨rfl, rfl⟩ := List.cons.inj (hdrop.symm.trans hcons)
          split
          · next hnone =>
              rw [h] at hnone
              cases hnone
          · next hsome =>
              obtain ⟨rfl, rfl⟩ := Prod.mk.inj (Option.some.inj (h.symm.trans hsome))
              rfl

theorem scan_append_of_spacing {space : List Char} (h : Spacing space) (cs : List Char) :
    Token.scan (space ++ cs) = Token.scan cs := by
  have hdrop : (space ++ cs).dropWhile isSpace = cs.dropWhile isSpace :=
    List.dropWhile_append_of_pos fun c hc => isSpace_iff.2 (h c hc)
  conv_lhs => unfold Token.scan
  conv_rhs => unfold Token.scan
  rw [hdrop]

theorem writtenAs_of_scan {tokens : List Token} (h : Token.scan cs = some tokens) :
    WrittenAs tokens cs := by
  have hspace : ∀ cs : List Char, Spacing (cs.takeWhile isSpace) := fun cs c hc =>
    isSpace_iff.1 (List.mem_takeWhile_imp hc)
  fun_induction Token.scan cs generalizing tokens with
  | case1 cs hdrop =>
      cases h
      rw [← List.takeWhile_append_dropWhile (p := isSpace) (l := cs), hdrop, List.append_nil]
      exact .nil (hspace cs)
  | case2 => cases h
  | case3 cs c _ hdrop token rest hfirst ih =>
      obtain ⟨tokens, hscan, rfl⟩ := Option.map_eq_some_iff.1 h
      obtain ⟨text, hspelled, htext⟩ := first_sound hfirst
      rw [← List.takeWhile_append_dropWhile (p := isSpace) (l := cs), hdrop, htext]
      exact .cons (hspace cs) hspelled (ih hscan)

/-- No two numbers stand next to each other: white space between them would not be free. -/
def Apart (tokens : List Token) : Prop :=
  tokens.IsChain fun token next => token.isNumber = false ∨ next.isNumber = false

theorem endsNumber_of_spelled {token : Token} (h : token.Spelled cs)
    (hnumber : token.isNumber = false) (rest : List Char) : EndsNumber (cs ++ rest) := by
  intro c hc
  cases h with
  | number => cases hnumber
  | _ =>
      obtain rfl := Option.some.inj hc
      decide

theorem endsNumber_of_writtenAs {tokens : List Token} (h : WrittenAs tokens cs)
    (hhead : ∀ token ∈ tokens.head?, token.isNumber = false) : EndsNumber cs := by
  have hspacing : ∀ c ∈ [' ', '\t', '\n', '\r'], c.isDigit = false ∧ c ∉ ['.', 'e', 'E'] := by
    simp
  cases h with
  | nil hspace => exact fun c hc => hspacing c (hspace c (List.mem_of_mem_head? hc))
  | @cons _ _ space _ _ hspace hspelled =>
      cases space with
      | nil => exact endsNumber_of_spelled hspelled (hhead _ rfl) _
      | cons c space =>
          intro c' hc
          obtain rfl := Option.some.inj hc
          exact hspacing c (hspace c List.mem_cons_self)

theorem scan_of_writtenAs {tokens : List Token} (h : WrittenAs tokens cs) (hapart : Apart tokens) :
    Token.scan cs = some tokens := by
  induction h with
  | @nil space hspace =>
      rw [← List.append_nil space, scan_append_of_spacing hspace]
      simp [Token.scan]
  | @cons token tokens _ _ _ hspace hspelled hrest ih =>
      obtain ⟨hnext, hapart⟩ := List.isChain_cons.1 hapart
      have hends : token.isNumber = true → EndsNumber _ := fun hnumber =>
        endsNumber_of_writtenAs hrest fun next hhead =>
          (hnext next hhead).resolve_left (by simp [hnumber])
      rw [scan_append_of_spacing hspace, scan_of_first (first_append hspelled hends), ih hapart]
      rfl

end

end Json
end Enrolment

import Enrolment.Json.Printing
import Enrolment.Proofs.Json.Grammar

/-!
Written JSON text is read back. Each character of a string is written as a spelling of one piece,
which names the character again, and an integer is written as a numeral, which makes the integer
again if it fits 64 bits. So the text of a value is a text of a tree that stands for the value, if
its numbers fit: then no content of a string or of a member can pass for structure.
-/

namespace Enrolment
namespace Json

/-- The piece that a written character is read as. -/
def pieceOf (c : Char) : Piece :=
  if c < ' ' ∧ c ∉ ['\x08', '\t', '\n', '\x0c', '\r'] then .unit c.toNat else .char c

/-- The pieces of a written string. -/
def piecesOf (s : String) : List Piece :=
  s.toList.map pieceOf

theorem hexDigit_hexDigit {n : Nat} (h : n < 16) : HexDigit (hexDigit n) n := by
  have hall : ∀ n < 16, Text.hexDigit? (hexDigit n) = some n := by decide
  exact hexDigit?_eq_some_iff.1 (hall n h)

/-- A character is written as an escape of its own, by its number, or as it is. -/
theorem writeChar_cases (c : Char) :
    (∃ letter, writeChar c = ['\\', letter] ∧ (letter, c) ∈ escapes ∧ pieceOf c = .char c) ∨
    (writeChar c = ['\\', 'u', '0', '0', hexDigit (c.toNat / 16), hexDigit (c.toNat % 16)] ∧
      c.toNat < 32 ∧ pieceOf c = .unit c.toNat) ∨
    writeChar c = [c] ∧ c ≠ '"' ∧ c ≠ '\\' ∧ ¬c < ' ' ∧ pieceOf c = .char c := by
  by_cases hquote : c = '"'
  · subst hquote
    exact .inl ⟨'"', by decide⟩
  by_cases hslash : c = '\\'
  · subst hslash
    exact .inl ⟨'\\', by decide⟩
  by_cases hshort : c ∈ ['\x08', '\t', '\n', '\x0c', '\r']
  · simp only [List.mem_cons, List.not_mem_nil, or_false] at hshort
    rcases hshort with rfl | rfl | rfl | rfl | rfl
    · exact .inl ⟨'b', by decide⟩
    · exact .inl ⟨'t', by decide⟩
    · exact .inl ⟨'n', by decide⟩
    · exact .inl ⟨'f', by decide⟩
    · exact .inl ⟨'r', by decide⟩
  right
  have hlong := hshort
  simp only [List.mem_cons, List.not_mem_nil, or_false, not_or] at hlong
  obtain ⟨hb, ht, hn, hf, hr⟩ := hlong
  rw [writeChar, pieceOf, if_neg hquote, if_neg hslash, if_neg hb, if_neg ht, if_neg hn, if_neg hf,
    if_neg hr]
  by_cases hcontrol : c < ' '
  · left
    rw [if_pos hcontrol, if_pos ⟨hcontrol, hshort⟩]
    exact ⟨rfl, hcontrol, rfl⟩
  · right
    rw [if_neg hcontrol, if_neg fun h => hcontrol h.1]
    exact ⟨rfl, hquote, hslash, hcontrol, rfl⟩

theorem spelled_pieceOf (c : Char) : (pieceOf c).Spelled (writeChar c) := by
  rcases writeChar_cases c with ⟨letter, hwrite, hescape, hpiece⟩ | ⟨hwrite, hlow, hpiece⟩ |
    ⟨hwrite, hquote, hslash, hcontrol, hpiece⟩
  · rw [hwrite, hpiece]
    exact .escape hescape
  · have hhigh := hexDigit_hexDigit (n := c.toNat / 16) (by omega)
    have hunits := hexDigit_hexDigit (n := c.toNat % 16) (Nat.mod_lt _ (by decide))
    have hnumber : ((0 * 16 + 0) * 16 + c.toNat / 16) * 16 + c.toNat % 16 = c.toNat := by omega
    have hzero : HexDigit '0' 0 := .inl rfl
    have hspelled := Piece.Spelled.unit hzero hzero hhigh hunits
    rwa [hnumber, ← hwrite, ← hpiece] at hspelled
  · rw [hwrite, hpiece]
    exact .plain (Char.not_lt.1 hcontrol) hquote hslash

theorem spelled_writeString (s : String) : (Token.string (piecesOf s)).Spelled (writeString s) := by
  have hpieces : ∀ cs : List Char, SpelledPieces (cs.map pieceOf) (cs.flatMap writeChar) := by
    intro cs
    induction cs with
    | nil => exact .nil
    | cons c cs ih => exact .cons (spelled_pieceOf c) ih
  exact .string (hpieces s.toList)

theorem names_map_pieceOf (cs : List Char) : Names (cs.map pieceOf) cs := by
  induction cs with
  | nil => exact .nil
  | cons c cs ih =>
      rw [List.map_cons]
      rcases writeChar_cases c with ⟨_, _, _, hpiece⟩ | ⟨_, hlow, hpiece⟩ | ⟨_, _, _, _, hpiece⟩
      · exact hpiece ▸ .char ih
      · have hunit : Names (.unit c.toNat :: cs.map pieceOf) (Char.ofNat c.toNat :: cs) :=
          .unit (by omega) ih
        rwa [Char.ofNat_toNat, ← hpiece] at hunit
      · exact hpiece ▸ .char ih

theorem stringOf?_piecesOf (s : String) : stringOf? (piecesOf s) = some s :=
  stringOf?_eq_some_iff.2 (names_map_pieceOf s.toList)

/-- Only zero is written with a zero in front. -/
theorem head?_toDigits_ne {n : Nat} (h : 0 < n) : (Nat.toDigits 10 n).head? ≠ some '0' := by
  induction n using Nat.strongRecOn with
  | ind n ih =>
      rcases Nat.lt_or_ge n 10 with hlt | hge
      · rw [Nat.toDigits_of_lt_base hlt]
        have hall : ∀ n < 10, 0 < n → [n.digitChar].head? ≠ some '0' := by decide
        exact hall n hlt h
      · have hhead := ih (n / 10) (by omega) (by omega)
        obtain ⟨d, ds, hds⟩ := List.exists_cons_of_ne_nil (Nat.toDigits_ne_nil (n := n / 10))
        rw [Nat.toDigits_of_base_le (by decide) hge, List.head?_append, hds]
        rw [hds] at hhead
        exact hhead

theorem spelledWhole_toDigits (n : Nat) : SpelledWhole (Nat.toDigits 10 n) := by
  have hdigits : ∀ d ∈ Nat.toDigits 10 n, d.isDigit = true := fun _ =>
    Nat.isDigit_of_mem_toDigits (by decide) (Nat.le_refl 10)
  refine ⟨digits_iff.2 ⟨Nat.toDigits_ne_nil, hdigits⟩, fun hzero => ?_⟩
  rcases Nat.eq_zero_or_pos n with rfl | hpos
  · rfl
  · exact absurd hzero (head?_toDigits_ne hpos)

/-- The numeral that an integer is written as. -/
def numeralOf (value : Int) : Numeral :=
  ⟨value < 0, Nat.toDigits 10 value.natAbs, none, none⟩

theorem spelled_numeralOf (value : Int) :
    (Token.number (numeralOf value)).Spelled (Number.integer value).text := by
  have hspelled : ∀ negative n, (Token.number ⟨negative, Nat.toDigits 10 n, none, none⟩).Spelled
      ((if negative then ['-'] else []) ++ (Nat.toDigits 10 n ++ [])) := fun negative n =>
    .number (.mk (spelledWhole_toDigits n) .none .none)
  cases value with
  | negSucc n => simpa [numeralOf, Number.text] using hspelled true (n + 1)
  | ofNat n =>
      have hpositive : decide (Int.ofNat n < 0) = false := by simp
      rw [numeralOf, hpositive]
      simpa [Number.text] using hspelled false n

/-- An integer that fits 64 bits, with or without sign. -/
def Number.IsWord (number : Number) : Prop :=
  ∃ value : Int, number = .integer value ∧ -9223372036854775808 ≤ value ∧
    value ≤ 18446744073709551615

theorem makesInteger_numeralOf {value : Int} (hleast : -9223372036854775808 ≤ value)
    (hgreatest : value ≤ 18446744073709551615) : (numeralOf value).MakesInteger value := by
  have hdigits : Nat.ofDigitChars 10 (Nat.toDigits 10 value.natAbs) 0 = value.natAbs :=
    Nat.ofDigitChars_ten_toDigits
  by_cases hnegative : value < 0
  · have hmakes : Numeral.MakesInteger ⟨true, Nat.toDigits 10 value.natAbs, none, none⟩ _ :=
      .negative (by omega) (by omega)
    rw [hdigits, show -(value.natAbs : Int) = value by omega] at hmakes
    simpa [numeralOf, hnegative] using hmakes
  · have hmakes : Numeral.MakesInteger ⟨false, Nat.toDigits 10 value.natAbs, none, none⟩ _ :=
      .positive (by omega)
    rw [hdigits, show (value.natAbs : Int) = value by omega] at hmakes
    simpa [numeralOf, hnegative] using hmakes

theorem integer?_numeralOf {value : Int} (hleast : -9223372036854775808 ≤ value)
    (hgreatest : value ≤ 18446744073709551615) :
    Number.integer? (numeralOf value) = some value :=
  integer?_eq_some_iff.2 (makesInteger_numeralOf hleast hgreatest)

/-- An integer that is read fits 64 bits. -/
theorem isWord_of_integer? {numeral : Numeral} {value : Int}
    (h : Number.integer? numeral = some value) : (Number.integer value).IsWord := by
  rcases integer?_eq_some_iff.1 h with hfits | ⟨hpos, hfits⟩
  · exact ⟨_, rfl, by omega, by omega⟩
  · exact ⟨_, rfl, by omega, by omega⟩

namespace WrittenAs

variable {token : Token} {tokens tokens' : List Token} {cs cs' : List Char}

theorem tight (h : token.Spelled cs) (h' : WrittenAs tokens cs') :
    WrittenAs (token :: tokens) (cs ++ cs') :=
  .cons (show Spacing [] from nofun) h h'

theorem one (h : token.Spelled cs) : WrittenAs [token] cs := by
  have hone := tight h (.nil (show Spacing [] from nofun))
  rwa [List.append_nil] at hone

theorem append (h : WrittenAs tokens cs) (h' : WrittenAs tokens' cs') :
    WrittenAs (tokens ++ tokens') (cs ++ cs') := by
  induction h with
  | nil hspace =>
      -- White space at the end is in front of what follows.
      have hspaces : ∀ {space'}, Spacing space' → Spacing (_ ++ space') := fun h' =>
        List.forall_mem_append.2 ⟨hspace, h'⟩
      cases h' with
      | nil hspace' => exact .nil (hspaces hspace')
      | cons hspace' hspelled hrest =>
          rw [List.nil_append, ← List.append_assoc]
          exact .cons (hspaces hspace') hspelled hrest
  | cons hspace hspelled _ ih =>
      rw [List.append_assoc, List.append_assoc]
      exact .cons hspace hspelled ih

end WrittenAs

namespace Value

mutual

/-- The numbers in a value, in the order in which they are written. -/
def numbers : Value → List Number
  | number value => [value]
  | array items => itemNumbers items
  | object members => memberNumbers members
  | _ => []

def itemNumbers : List Value → List Number
  | [] => []
  | item :: items => item.numbers ++ itemNumbers items

def memberNumbers : List (String × Value) → List Number
  | [] => []
  | (_, item) :: members => item.numbers ++ memberNumbers members

end

theorem writeItems_cons (item next : Value) (items : List Value) :
    writeItems (item :: next :: items) = item.write ++ ',' :: writeItems (next :: items) := by
  rw [writeItems]
  simp

theorem writeMembers_cons (key : String) (item : Value) (next : String × Value)
    (members : List (String × Value)) :
    writeMembers ((key, item) :: next :: members) =
      writeString key ++ ':' :: (item.write ++ ',' :: writeMembers (next :: members)) := by
  rw [writeMembers]
  simp

mutual

/-- The tree that the text of a value is read as, where the numbers of the value are integers. -/
def tree : Value → Tree
  | null => .null
  | bool value => .bool value
  | number (.integer value) => .number (numeralOf value)
  | number (.real _ _) => .null
  | string value => .string (piecesOf value)
  | array items => .array (itemTrees items)
  | object members => .object (memberTrees members)

def itemTrees : List Value → List Tree
  | [] => []
  | item :: items => item.tree :: itemTrees items

def memberTrees : List (String × Value) → List (List Piece × Tree)
  | [] => []
  | (key, item) :: members => (piecesOf key, item.tree) :: memberTrees members

end

mutual

theorem standsFor_tree (value : Value) (h : ∀ n ∈ value.numbers, n.IsWord) :
    value.tree.StandsFor value :=
  match value with
  | null => trivial
  | bool _ => rfl
  | number n => by
      obtain ⟨value, rfl, hleast, hgreatest⟩ := h n List.mem_cons_self
      exact .integer (makesInteger_numeralOf hleast hgreatest)
  | string s => names_map_pieceOf s.toList
  | array items => standFor_itemTrees items h
  | object members => standFor_memberTrees members h

theorem standFor_itemTrees (items : List Value) (h : ∀ n ∈ itemNumbers items, n.IsWord) :
    ItemsStandFor (itemTrees items) items :=
  match items with
  | [] => trivial
  | item :: items =>
      ⟨standsFor_tree item fun n hn => h n (List.mem_append_left _ hn),
        standFor_itemTrees items fun n hn => h n (List.mem_append_right _ hn)⟩

theorem standFor_memberTrees (members : List (String × Value))
    (h : ∀ n ∈ memberNumbers members, n.IsWord) :
    MembersStandFor (memberTrees members) members :=
  match members with
  | [] => trivial
  | (key, item) :: members =>
      ⟨names_map_pieceOf key.toList,
        standsFor_tree item fun n hn => h n (List.mem_append_left _ hn),
        standFor_memberTrees members fun n hn => h n (List.mem_append_right _ hn)⟩

end

theorem value?_tree (value : Value) (h : ∀ n ∈ value.numbers, n.IsWord) :
    value.tree.value? = some value :=
  (value?_eq_some_iff value.tree value).2 (standsFor_tree value h)

mutual

/-- The text of a value is written as the tokens of its tree, without white space. -/
theorem writtenAs_tree (value : Value) (h : ∀ n ∈ value.numbers, n.IsWord) :
    WrittenAs value.tree.tokens value.write :=
  match value with
  | null => .one .null
  | bool true => .one .true
  | bool false => .one .false
  | number n => by
      obtain ⟨value, rfl, _⟩ := h n List.mem_cons_self
      exact .one (spelled_numeralOf value)
  | string s => .one (spelled_writeString s)
  | array items =>
      .tight .openBracket ((writtenAs_itemTrees items h).append (.one .closeBracket))
  | object members =>
      .tight .openBrace ((writtenAs_memberTrees members h).append (.one .closeBrace))

theorem writtenAs_itemTrees (items : List Value) (h : ∀ n ∈ itemNumbers items, n.IsWord) :
    WrittenAs (Tree.itemTokens (itemTrees items)) (writeItems items) :=
  match items with
  | [] => .nil nofun
  | [item] => writtenAs_tree item fun n hn => h n (List.mem_append_left _ hn)
  | item :: next :: items => by
      rw [writeItems_cons, itemTrees, itemTrees, Tree.itemTokens_cons]
      exact (writtenAs_tree item fun n hn => h n (List.mem_append_left _ hn)).append
        (.tight .comma (writtenAs_itemTrees (next :: items)
          fun n hn => h n (List.mem_append_right _ hn)))

theorem writtenAs_memberTrees (members : List (String × Value))
    (h : ∀ n ∈ memberNumbers members, n.IsWord) :
    WrittenAs (Tree.memberTokens (memberTrees members)) (writeMembers members) :=
  match members with
  | [] => .nil nofun
  | [(key, item)] =>
      .tight (spelled_writeString key) (.tight .colon
        (writtenAs_tree item fun n hn => h n (List.mem_append_left _ hn)))
  | (key, item) :: next :: members => by
      rw [writeMembers_cons, memberTrees, memberTrees, Tree.memberTokens_cons]
      exact .tight (spelled_writeString key) (.tight .colon
        ((writtenAs_tree item fun n hn => h n (List.mem_append_left _ hn)).append
          (.tight .comma (writtenAs_memberTrees (next :: members)
            fun n hn => h n (List.mem_append_right _ hn)))))

end

/-- The text of a value is JSON for that value. -/
theorem spells_compact {value : Value} (h : ∀ n ∈ value.numbers, n.IsWord) :
    Spells value.compact value.tree value := by
  rw [Spells, compact, String.toList_ofList]
  exact ⟨writtenAs_tree value h, standsFor_tree value h⟩

theorem parse_compact {value : Value} (h : ∀ n ∈ value.numbers, n.IsWord) :
    Tree.parse value.compact.toList = some value.tree :=
  (spells_compact h).parse

end Value
end Json
end Enrolment

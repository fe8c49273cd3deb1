import Enrolment.Proofs.Json.Scanning

/-!
The reader follows the grammar. At any place, the tokens that were read and those that are left are
the tokens of the tree that is read in the end; and the tokens of a tree are read as that tree. So
a text is read as a tree if it is written as its tokens, and only then. In the same way the value
of a tree is the one that it stands for.
-/

namespace Enrolment
namespace Json
namespace Tree

theorem itemTokens_cons (item next : Tree) (items : List Tree) :
    itemTokens (item :: next :: items) = item.tokens ++ .comma :: itemTokens (next :: items) := by
  rw [itemTokens]
  simp

theorem memberTokens_cons (key : List Piece) (item : Tree) (next : List Piece × Tree)
    (members : List (List Piece × Tree)) :
    memberTokens ((key, item) :: next :: members) =
      .string key :: .colon :: (item.tokens ++ .comma :: memberTokens (next :: members)) := by
  rw [memberTokens]
  simp

/-- The tokens of items with a comma behind each. -/
def itemsSoFar (items : List Tree) : List Token :=
  items.flatMap fun item => item.tokens ++ [.comma]

def membersSoFar (members : List (List Piece × Tree)) : List Token :=
  members.flatMap fun (key, item) => .string key :: .colon :: (item.tokens ++ [.comma])

theorem itemTokens_append (items : List Tree) (item : Tree) :
    itemTokens (items ++ [item]) = itemsSoFar items ++ item.tokens := by
  induction items with
  | nil => simp [itemTokens, itemsSoFar]
  | cons first items ih =>
      obtain ⟨next, rest, hrest⟩ := List.exists_cons_of_ne_nil (l := items ++ [item]) (by simp)
      rw [List.cons_append, hrest, itemTokens_cons, ← hrest, ih]
      simp [itemsSoFar]

theorem memberTokens_append (members : List (List Piece × Tree)) (key : List Piece) (item : Tree) :
    memberTokens (members ++ [(key, item)]) =
      membersSoFar members ++ .string key :: .colon :: item.tokens := by
  induction members with
  | nil => simp [memberTokens, membersSoFar]
  | cons first members ih =>
      obtain ⟨next, rest, hrest⟩ :=
        List.exists_cons_of_ne_nil (l := members ++ [(key, item)]) (by simp)
      rw [List.cons_append, hrest, memberTokens_cons, ← hrest, ih]
      simp [membersSoFar]

/-- The tokens that were read of what is open. -/
def openTokens : List Open → List Token
  | [] => []
  | .array items :: outer => openTokens outer ++ .openBracket :: itemsSoFar items.reverse
  | .object members key :: outer =>
      openTokens outer ++ .openBrace :: (membersSoFar members.reverse ++ [.string key, .colon])

/-- The tokens that were read up to a place. -/
def taken (outer : List Open) : Expect → List Token
  | .value | .valueOrClose => openTokens outer
  | .key members => openTokens outer ++ .openBrace :: membersSoFar members.reverse
  | .keyOrClose => openTokens outer ++ [.openBrace]
  | .colon members key =>
      openTokens outer ++ .openBrace :: (membersSoFar members.reverse ++ [.string key])
  | .after value => openTokens outer ++ value.tokens

theorem tokens_of_ofToken? {token : Token} {tree : Tree} (h : ofToken? token = some tree) :
    tree.tokens = [token] := by
  cases token <;> cases h <;> rfl

/-- What was read and what is left to read make the tokens of the tree. -/
theorem tokens_of_build {expect : Expect} {outer : List Open} {ts : List Token} {tree : Tree}
    (h : build expect outer ts = some tree) : taken outer expect ++ ts = tree.tokens := by
  fun_induction build expect outer ts with
  | case1 value =>
      cases h
      exact List.append_nil _
  | case13 outer token ts _ _ ih | case16 outer token ts _ _ _ ih =>
      obtain ⟨value, htoken, hrest⟩ := Option.bind_eq_some_iff.1 h
      rw [← ih value hrest]
      simp [taken, tokens_of_ofToken? htoken]
  | case17 => cases h
  -- All others take a token that is a sign of structure.
  | case2 _ _ _ _ ih | case3 _ _ _ _ ih | case4 _ _ _ _ _ ih | case5 _ _ _ _ _ ih
  | case6 _ _ _ _ ih | case7 _ _ _ ih | case8 _ _ ih | case9 _ _ _ _ ih | case10 _ _ ih
  | case11 _ _ ih | case12 _ _ ih | case14 _ _ ih | case15 _ _ ih =>
      rw [← ih h]
      simp [taken, openTokens, tokens, itemTokens, itemsSoFar, itemTokens_append,
        memberTokens, membersSoFar, memberTokens_append]

/-- A value may stand where an array may also close. -/
theorem build_valueOrClose (tree : Tree) (outer : List Open) (ts : List Token) :
    build .valueOrClose outer (tree.tokens ++ ts) = build .value outer (tree.tokens ++ ts) := by
  cases tree <;> simp [tokens, build]

mutual

/-- The reader takes the tokens of a tree, and nothing more, for that tree. -/
theorem build_tokens (tree : Tree) (outer : List Open) (ts : List Token) :
    build .value outer (tree.tokens ++ ts) = build (.after tree) outer ts :=
  match tree with
  | .null | .bool _ | .number _ | .string _ => by simp [tokens, build, ofToken?]
  | .array [] => by simp [tokens, itemTokens, build]
  | .array (item :: items) => by
      have hitems := build_itemTokens (item :: items) [] outer ts (List.cons_ne_nil _ _)
      have hfirst : build .valueOrClose (.array [] :: outer)
          (itemTokens (item :: items) ++ .closeBracket :: ts) =
          build .value (.array [] :: outer)
            (itemTokens (item :: items) ++ .closeBracket :: ts) := by
        cases items with
        | nil => exact build_valueOrClose item _ _
        | cons next items =>
            rw [itemTokens_cons, List.append_assoc]
            exact build_valueOrClose item _ _
      rw [tokens, List.cons_append, List.append_assoc, build]
      exact hfirst.trans hitems
  | .object [] => by simp [tokens, memberTokens, build]
  | .object ((key, item) :: members) => by
      have hmembers :=
        build_memberTokens ((key, item) :: members) [] outer ts (List.cons_ne_nil _ _)
      have hfirst : build .keyOrClose outer
          (memberTokens ((key, item) :: members) ++ .closeBrace :: ts) =
          build (.key []) outer (memberTokens ((key, item) :: members) ++ .closeBrace :: ts) := by
        cases members with
        | nil => simp [memberTokens, build]
        | cons next members => simp [memberTokens_cons, build]
      rw [tokens, List.cons_append, List.append_assoc, build]
      exact hfirst.trans hmembers

theorem build_itemTokens (items : List Tree) (done : List Tree) (outer : List Open)
    (ts : List Token) (h : items ≠ []) :
    build .value (.array done :: outer) (itemTokens items ++ .closeBracket :: ts) =
      build (.after (array (done.reverse ++ items))) outer ts :=
  match items with
  | [] => absurd rfl h
  | [item] => by
      rw [itemTokens, build_tokens item, build, List.reverse_cons]
  | item :: next :: items => by
      rw [itemTokens_cons, List.append_assoc, build_tokens item, List.cons_append, build,
        build_itemTokens (next :: items) _ _ _ (List.cons_ne_nil _ _), List.reverse_cons,
        List.append_assoc, List.singleton_append]

theorem build_memberTokens (members done : List (List Piece × Tree)) (outer : List Open)
    (ts : List Token) (h : members ≠ []) :
    build (.key done) outer (memberTokens members ++ .closeBrace :: ts) =
      build (.after (object (done.reverse ++ members))) outer ts :=
  match members with
  | [] => absurd rfl h
  | [(key, item)] => by
      rw [memberTokens, List.cons_append, List.cons_append, build, build, build_tokens item, build,
        List.reverse_cons]
  | (key, item) :: next :: members => by
      rw [memberTokens_cons, List.cons_append, List.cons_append, build, build, List.append_assoc,
        build_tokens item, List.cons_append, build,
        build_memberTokens (next :: members) _ _ _ (List.cons_ne_nil _ _), List.reverse_cons,
        List.append_assoc, List.singleton_append]

end

end Tree

section
variable {token : Token} {tokens tokens' : List Token}

theorem Apart.cons (htoken : token.isNumber = false) (h : Apart tokens) :
    Apart (token :: tokens) :=
  List.isChain_cons.2 ⟨fun _ _ => .inl htoken, h⟩

/-- A token that is no number keeps the others apart. -/
theorem Apart.append_cons (h : Apart tokens) (htoken : token.isNumber = false)
    (h' : Apart tokens') : Apart (tokens ++ token :: tokens') := by
  refine List.isChain_append.2 ⟨h, h'.cons htoken, fun _ _ next hnext => .inr ?_⟩
  obtain rfl := Option.some.inj hnext
  exact htoken

end

namespace Tree

mutual

theorem apart_tokens (tree : Tree) : Apart tree.tokens :=
  match tree with
  | .null | .bool _ | .number _ | .string _ => List.isChain_singleton _
  | .array items => ((apart_itemTokens items).append_cons rfl .nil).cons rfl
  | .object members => ((apart_memberTokens members).append_cons rfl .nil).cons rfl

theorem apart_itemTokens (items : List Tree) : Apart (itemTokens items) :=
  match items with
  | [] => .nil
  | [item] => apart_tokens item
  | item :: next :: items => by
      rw [itemTokens_cons]
      exact (apart_tokens item).append_cons rfl (apart_itemTokens (next :: items))

theorem apart_memberTokens (members : List (List Piece × Tree)) : Apart (memberTokens members) :=
  match members with
  | [] => .nil
  | [(_, item)] => ((apart_tokens item).cons rfl).cons rfl
  | (key, item) :: next :: members => by
      rw [memberTokens_cons]
      exact (((apart_tokens item).append_cons rfl (apart_memberTokens (next :: members))).cons
        rfl).cons rfl

end

/-- A text is read as a tree if it is a text of the tree, and only then. -/
theorem parse_eq_some_iff {cs : List Char} {tree : Tree} :
    parse cs = some tree ↔ WrittenAs tree.tokens cs := by
  rw [parse, Option.bind_eq_some_iff]
  constructor
  · rintro ⟨tokens, hscan, hbuild⟩
    have htokens : tokens = tree.tokens := tokens_of_build hbuild
    exact htokens ▸ writtenAs_of_scan hscan
  · intro h
    have hbuild := build_tokens tree [] []
    rw [List.append_nil] at hbuild
    exact ⟨_, scan_of_writtenAs h (apart_tokens tree), hbuild⟩

end Tree

/-- A code unit that is no half of a pair is a character by itself. -/
theorem charsOf?_unit {n : Nat} (h : n < 0xd800 ∨ 0xe000 ≤ n) (pieces : List Piece) :
    charsOf? (.unit n :: pieces) = (charsOf? pieces).map (Char.ofNat n :: ·) := by
  have hhigh : isHigh n = false := by
    simp only [isHigh, Bool.and_eq_false_iff, decide_eq_false_iff_not]
    omega
  have hlow : isLow n = false := by
    simp only [isLow, Bool.and_eq_false_iff, decide_eq_false_iff_not]
    omega
  rcases pieces with _ | ⟨_ | _, _⟩ <;> simp [charsOf?, hhigh, hlow]

theorem charsOf?_pair {m n : Nat} (hm : m < 0x400) (hn : n < 0x400) (pieces : List Piece) :
    charsOf? (.unit (0xd800 + m) :: .unit (0xdc00 + n) :: pieces) =
      (charsOf? pieces).map (Char.ofNat (0x10000 + m * 0x400 + n) :: ·) := by
  have hhigh : isHigh (0xd800 + m) = true := by
    simp only [isHigh, Bool.and_eq_true, decide_eq_true_eq]
    omega
  have hlow : isLow (0xdc00 + n) = true := by
    simp only [isLow, Bool.and_eq_true, decide_eq_true_eq]
    omega
  rw [charsOf?, if_pos hhigh, if_pos hlow, Nat.add_sub_cancel_left, Nat.add_sub_cancel_left]

theorem charsOf?_eq_some_iff {pieces : List Piece} {cs : List Char} :
    charsOf? pieces = some cs ↔ Names pieces cs := by
  constructor
  · intro h
    fun_induction charsOf? pieces generalizing cs with
    | case1 =>
        cases h
        exact .nil
    | case2 c pieces ih =>
        obtain ⟨cs, hcs, rfl⟩ := Option.map_eq_some_iff.1 h
        exact .char (ih hcs)
    | case3 n m pieces hhigh hlow ih =>
        obtain ⟨cs, hcs, rfl⟩ := Option.map_eq_some_iff.1 h
        simp only [isHigh, isLow, Bool.and_eq_true, decide_eq_true_eq] at hhigh hlow
        obtain ⟨high, rfl⟩ := Nat.exists_eq_add_of_le hhigh.1
        obtain ⟨low, rfl⟩ := Nat.exists_eq_add_of_le hlow.1
        rw [Nat.add_sub_cancel_left, Nat.add_sub_cancel_left]
        exact .pair (by omega) (by omega) (ih hcs)
    | case4 => cases h
    | case5 => cases h
    | case6 n m pieces hhigh hlow ih =>
        obtain ⟨cs, hcs, rfl⟩ := Option.map_eq_some_iff.1 h
        simp only [isHigh, isLow, Bool.and_eq_true, decide_eq_true_eq] at hhigh hlow
        exact .unit (by omega) (ih hcs)
    | case7 => cases h
    | case8 n pieces hpair hhalf ih =>
        obtain ⟨cs, hcs, rfl⟩ := Option.map_eq_some_iff.1 h
        simp only [isHigh, isLow, Bool.or_eq_true, Bool.and_eq_true, decide_eq_true_eq] at hhalf
        exact .unit (by omega) (ih hcs)
  · intro h
    induction h with
    | nil => rfl
    | char _ ih =>
        rw [charsOf?, ih]
        rfl
    | unit hn _ ih =>
        rw [charsOf?_unit hn, ih]
        rfl
    | pair hm hn _ ih =>
        rw [charsOf?_pair hm hn, ih]
        rfl

theorem stringOf?_eq_some_iff {pieces : List Piece} {s : String} :
    stringOf? pieces = some s ↔ Names pieces s.toList := by
  rw [stringOf?, Option.map_eq_some_iff, ← charsOf?_eq_some_iff]
  constructor
  · rintro ⟨cs, hcs, rfl⟩
    rw [hcs, String.toList_ofList]
  · intro h
    exact ⟨_, h, String.ofList_toList⟩

theorem integer?_eq_some_iff {numeral : Numeral} {value : Int} :
    Number.integer? numeral = some value ↔ numeral.MakesInteger value := by
  have hsize : maxWord = 18446744073709551615 := rfl
  have hhalf : UInt64.size / 2 = 9223372036854775808 := rfl
  have hdigits : ∀ ds, digitsValue ds = Nat.ofDigitChars 10 ds 0 := fun _ => rfl
  rw [Number.integer?, hdigits]
  constructor
  · intro h
    obtain ⟨negative, whole, fraction, exponent⟩ := numeral
    split at h
    · next hfraction hexponent =>
        obtain rfl : fraction = none := hfraction
        obtain rfl : exponent = none := hexponent
        cases negative with
        | true =>
            rw [if_pos rfl] at h
            split at h
            · next hfits =>
                simp only [Bool.and_eq_true, decide_eq_true_eq] at hfits
                obtain rfl := Option.some.inj h
                exact .negative hfits.1 (hhalf ▸ hfits.2)
            · cases h
        | false =>
            rw [if_neg Bool.false_ne_true] at h
            split at h
            · next hfits =>
                obtain rfl := Option.some.inj h
                exact .positive (hsize ▸ hfits)
            · cases h
    · cases h
  · rintro (hfits | ⟨hpos, hfits⟩)
    · simp [hsize, hfits]
    · simp [hpos, hhalf, hfits]

theorem ofNumeral?_eq_some_iff {numeral : Numeral} {number : Number} :
    Number.ofNumeral? numeral = some number ↔ numeral.Makes number := by
  rw [Number.ofNumeral?]
  cases hinteger : Number.integer? numeral with
  | some value =>
      have hvalue := integer?_eq_some_iff.1 hinteger
      constructor
      · intro h
        cases h
        exact .integer hvalue
      · rintro (h | ⟨hnone, -⟩)
        · rw [← hinteger, integer?_eq_some_iff.2 h]
        · exact absurd hvalue (hnone value)
  | none =>
      have hnone : ∀ value, ¬numeral.MakesInteger value := fun value hvalue => by
        rw [integer?_eq_some_iff.2 hvalue] at hinteger
        cases hinteger
      constructor
      · intro h
        obtain ⟨magnitude, hmagnitude, rfl⟩ := Option.map_eq_some_iff.1 h
        exact .real hnone hmagnitude
      · rintro (h | ⟨-, hmagnitude⟩)
        · exact absurd h (hnone _)
        · rw [hmagnitude]
          rfl

mutual

theorem value?_eq_some_iff (tree : Tree) (value : Value) :
    tree.value? = some value ↔ tree.StandsFor value :=
  match tree with
  | .null => by cases value <;> simp [Tree.value?, Tree.StandsFor]
  | .bool _ => by cases value <;> simp [Tree.value?, Tree.StandsFor]
  | .number _ => by cases value <;> simp [Tree.value?, Tree.StandsFor, ofNumeral?_eq_some_iff]
  | .string _ => by cases value <;> simp [Tree.value?, Tree.StandsFor, stringOf?_eq_some_iff]
  | .array items => by
      cases value <;> simp [Tree.value?, Tree.StandsFor, valuesOf?_eq_some_iff items]
  | .object members => by
      cases value <;> simp [Tree.value?, Tree.StandsFor, membersOf?_eq_some_iff members]

theorem valuesOf?_eq_some_iff (items : List Tree) (values : List Value) :
    valuesOf? items = some values ↔ ItemsStandFor items values :=
  match items with
  | [] => by cases values <;> simp [valuesOf?, ItemsStandFor]
  | item :: items => by
      cases values <;>
        simp [valuesOf?, ItemsStandFor, Option.bind_eq_some_iff, value?_eq_some_iff item,
          valuesOf?_eq_some_iff items]

theorem membersOf?_eq_some_iff (members : List (List Piece × Tree))
    (values : List (String × Value)) :
    membersOf? members = some values ↔ MembersStandFor members values :=
  match members with
  | [] => by cases values <;> simp [membersOf?, MembersStandFor]
  | (pieces, item) :: members => by
      rcases values with _ | ⟨⟨key, value⟩, values⟩ <;>
        simp [membersOf?, MembersStandFor, Option.bind_eq_some_iff, stringOf?_eq_some_iff,
          value?_eq_some_iff item, membersOf?_eq_some_iff members]

end

/-- The reader follows the grammar. -/
theorem spells_iff {text : String} {tree : Tree} {value : Value} :
    Spells text tree value ↔ Tree.parse text.toList = some tree ∧ tree.value? = some value := by
  rw [Spells, Tree.parse_eq_some_iff, value?_eq_some_iff]

namespace Spells

variable {text : String} {tree tree' : Tree} {value value' : Value}

theorem parse (h : Spells text tree value) : Tree.parse text.toList = some tree :=
  (spells_iff.1 h).1

/-- A text is JSON for one value at most. -/
theorem unique (h : Spells text tree value) (h' : Spells text tree' value') : value = value' := by
  obtain ⟨hparse, hvalue⟩ := spells_iff.1 h
  obtain ⟨hparse', hvalue'⟩ := spells_iff.1 h'
  obtain rfl := Option.some.inj (hparse.symm.trans hparse')
  exact Option.some.inj (hvalue.symm.trans hvalue')

end Spells

theorem read_eq_some_iff {text : String} {value : Value} : Value.read text = some value ↔
    ∃ tree written, Spells text tree written ∧ tree.depth ≤ 127 ∧ written.canonical = value := by
  rw [Value.read, Option.bind_eq_some_iff]
  constructor
  · rintro ⟨tree, htree, hread⟩
    split at hread
    · next hdepth =>
        obtain ⟨written, hwritten, heq⟩ := Option.map_eq_some_iff.1 hread
        exact ⟨tree, written, spells_iff.2 ⟨htree, hwritten⟩, hdepth, heq⟩
    · cases hread
  · rintro ⟨tree, written, hspells, hdepth, rfl⟩
    obtain ⟨htree, hwritten⟩ := spells_iff.1 hspells
    have hlimit : tree.depth ≤ Value.depthLimit := hdepth
    exact ⟨tree, htree, by rw [if_pos hlimit, hwritten, Option.map_some]⟩

end Json
end Enrolment

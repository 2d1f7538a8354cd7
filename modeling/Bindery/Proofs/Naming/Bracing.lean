/-
What bracing adds to a replacement text.

`braceNumbers` reads a text in steps of different lengths: two dollar signs, a dollar
sign with all the digits behind it, or one character. Here the same text is read one
symbol at a time. What has been read leaves off at a `Place`, and the place and the
next symbol say whether a brace is due between the two. `glyphs` is the braced text in
which the symbols that were there and the braces that were put in are told apart. The
main statements are

* `spell_glyphs`, that bracing puts in these braces and no others;
* `kept_glyphs`, that a text is what is left of it without them;
* `holdsNumber_braceNumbers`, that no numbered reference is left without braces, so
  that bracing changes exactly the texts that hold one (`braceNumbers_eq_self_iff`) and
  changes them once;
* `glyphs_bytesOf`, that the same braces are due when a text is read byte by byte, and that
  none of them falls into a character, however many bytes it takes;
* `braceNumbers_settled`, all this for a replacement.
-/

import Bindery.Proofs.Naming.References

namespace Bindery.Naming

/-! ### Reading symbol by symbol -/

/-- What a symbol is to numbered references. -/
inductive Sign where
  | dollar
  | digit
  | other

/-- The places of a text that is read from left to right with two dollar signs as a
pair: behind a dollar sign that is not the second of a pair, behind such a dollar sign
and digits, or anywhere else. -/
inductive Place where
  | plain
  | dollar
  | number

/-- The place behind the next symbol. -/
def Place.behind : Place → Sign → Place
  | dollar, .dollar => plain
  | plain, .dollar | number, .dollar => dollar
  | dollar, .digit | number, .digit => number
  | plain, .digit => plain
  | _, .other => plain

/-- A symbol of a braced text: one that was there before, or a brace that was put in. -/
inductive Glyph (α : Type) where
  | kept (symbol : α)
  | opening
  | closing

/-- The glyph written with given braces. -/
def Glyph.spell {α : Type} (left right : α) : Glyph α → α
  | kept symbol => symbol
  | opening => left
  | closing => right

/-- The symbol that was there before. -/
def Glyph.kept? {α : Type} : Glyph α → Option α
  | kept symbol => some symbol
  | opening | closing => none

/-- The brace that is due at a place in front of a symbol, or at the end of a text: an
opening one between a dollar sign and a digit, a closing one where a number ends. -/
def Place.brace {α : Type} : Place → Option Sign → List (Glyph α)
  | dollar, some .digit => [.opening]
  | number, some .digit => []
  | number, _ => [.closing]
  | _, _ => []

/-- The text that stands at a place, with every brace that is due put in. -/
def glyphs {α : Type} (sign : α → Sign) : Place → List α → List (Glyph α)
  | place, [] => place.brace none
  | place, symbol :: text =>
    place.brace (some (sign symbol)) ++
      .kept symbol :: glyphs sign (place.behind (sign symbol)) text

section

variable {α : Type} {sign : α → Sign} {text : List α}

theorem filterMap_brace (place : Place) (next : Option Sign) :
    (place.brace next : List (Glyph α)).filterMap Glyph.kept? = [] := by
  fun_cases Place.brace place next <;> rfl

/-- **Without the braces that were put in, the text is what it was.** -/
theorem kept_glyphs (sign : α → Sign) (place : Place) (text : List α) :
    (glyphs sign place text).filterMap Glyph.kept? = text := by
  induction text generalizing place with
  | nil => exact filterMap_brace place none
  | cons symbol text ih =>
    rw [glyphs, List.filterMap_append, filterMap_brace, List.nil_append]
    exact congrArg (symbol :: ·) (ih _)

/-- No brace is due among symbols that are nothing to references. -/
theorem glyphs_append_of_other (others : ∀ symbol ∈ text, sign symbol = .other)
    (rest : List α) :
    glyphs sign .plain (text ++ rest) = text.map Glyph.kept ++ glyphs sign .plain rest := by
  induction text with
  | nil => rfl
  | cons symbol text ih =>
    obtain ⟨first, others⟩ := List.forall_mem_cons.mp others
    rw [List.cons_append, glyphs, first]
    exact congrArg (Glyph.kept symbol :: ·) (ih others)

end

/-! ### Characters -/

/-- What a character is to numbered references. -/
def Sign.ofChar (c : Char) : Sign :=
  if c = '$' then .dollar else if c.isDigit then .digit else .other

variable {text : List Char} {c : Char}

theorem Sign.ofChar_digit (digit : c.isDigit = true) : Sign.ofChar c = .digit := by
  have other : c ≠ '$' := by
    rintro rfl
    exact absurd digit (by decide)
  rw [Sign.ofChar, if_neg other, if_pos digit]

theorem Sign.ofChar_other (notDollar : c ≠ '$') (notDigit : c.isDigit = false) :
    Sign.ofChar c = .other := by
  rw [Sign.ofChar, if_neg notDollar, notDigit, if_neg Bool.false_ne_true]

/-- A number goes on to its last digit, and there it is closed. -/
theorem glyphs_number (text : List Char) :
    glyphs Sign.ofChar .number text =
      (text.takeWhile Char.isDigit).map Glyph.kept ++
        .closing :: glyphs Sign.ofChar .plain (text.dropWhile Char.isDigit) := by
  induction text with
  | nil => rfl
  | cons c text ih =>
    by_cases digit : c.isDigit = true
    · rw [List.takeWhile_cons_of_pos digit, List.dropWhile_cons_of_pos digit, glyphs,
        Sign.ofChar_digit digit]
      exact congrArg (Glyph.kept c :: ·) ih
    · -- The symbol that ends the number is read as in any other place.
      rw [List.takeWhile_cons_of_neg digit, List.dropWhile_cons_of_neg digit, glyphs, glyphs]
      by_cases dollar : c = '$'
      · subst dollar
        rfl
      · rw [Sign.ofChar_other dollar (by simpa using digit)]
        rfl

/-- Behind a dollar sign digits are a number in braces, -/
theorem glyphs_dollar_of_digit (number : text.takeWhile Char.isDigit ≠ []) :
    glyphs Sign.ofChar .dollar text = .opening :: glyphs Sign.ofChar .number text := by
  cases text with
  | nil => exact absurd rfl number
  | cons c text =>
    have digit : c.isDigit = true := by simpa using mt takeWhile_eq_nil_iff.mpr number
    rw [glyphs, glyphs, Sign.ofChar_digit digit]
    rfl

/-- and what makes no pair and is no digit stands as in any other place. -/
theorem glyphs_dollar (noPair : ∀ more, text ≠ '$' :: more)
    (noNumber : text.takeWhile Char.isDigit = []) :
    glyphs Sign.ofChar .dollar text = glyphs Sign.ofChar .plain text := by
  cases text with
  | nil => rfl
  | cons c text =>
    have notDollar : c ≠ '$' := by
      rintro rfl
      exact noPair text rfl
    have notDigit : c.isDigit = false := by simpa using takeWhile_eq_nil_iff.mp noNumber
    rw [glyphs, glyphs, Sign.ofChar_other notDollar notDigit]
    rfl

/-- **Bracing puts in the braces that are due and no others.** -/
theorem spell_glyphs (text : List Char) :
    (glyphs Sign.ofChar .plain text).map (Glyph.spell '{' '}') = braceNumbers text := by
  induction text using braceNumbers.induct with
  | case1 =>
    rw [braceNumbers]
    rfl
  | case2 rest ih =>
    rw [braceNumbers, ← ih]
    rfl
  | case3 rest noPair _ noNumber ih =>
    rw [braceNumbers_dollar noPair noNumber, ← ih, ← glyphs_dollar noPair noNumber]
    rfl
  | case4 rest noPair _ number ih =>
    have behind : glyphs Sign.ofChar .plain ('$' :: rest) =
        .kept '$' :: .opening :: ((rest.takeWhile Char.isDigit).map Glyph.kept ++
          .closing :: glyphs Sign.ofChar .plain (rest.dropWhile Char.isDigit)) := by
      rw [← glyphs_number, ← glyphs_dollar_of_digit number]
      rfl
    rw [braceNumbers_number number, behind, ← ih]
    simp [Glyph.spell, Function.comp_def]
  | case5 c rest _ other ih =>
    have behind : glyphs Sign.ofChar .plain (c :: rest) =
        .kept c :: glyphs Sign.ofChar .plain rest := by
      rw [glyphs, Sign.ofChar, if_neg other]
      split <;> rfl
    rw [braceNumbers_cons other, behind, ← ih]
    rfl

/-! ### Bracing once more -/

/-- Text without dollar signs holds no numbered reference. -/
theorem holdsNumber_append {front : List Char} (free : '$' ∉ front) (rest : List Char) :
    holdsNumber (front ++ rest) = holdsNumber rest := by
  induction front with
  | nil => rfl
  | cons c front ih =>
    rw [List.cons_append, holdsNumber_cons (List.ne_of_not_mem_cons free).symm,
      ih (List.not_mem_of_not_mem_cons free)]

/-- **No numbered reference is left without braces.** -/
theorem holdsNumber_braceNumbers (text : List Char) :
    holdsNumber (braceNumbers text) = false := by
  induction text using braceNumbers.induct with
  | case1 => rw [braceNumbers, holdsNumber]
  | case2 rest ih => rw [braceNumbers, holdsNumber, ih]
  | case3 rest noPair _ noNumber ih =>
    -- The first character behind the dollar sign is the one that was there before.
    have head : (braceNumbers rest).head?.any Char.isDigit = false := by
      rw [head?_braceNumbers]
      exact takeWhile_eq_nil_iff.mp noNumber
    rw [braceNumbers_dollar noPair noNumber, holdsNumber_dollar (braceNumbers_ne_cons noPair),
      head, ih]
    rfl
  | case4 rest noPair _ number ih =>
    have free : '$' ∉ rest.takeWhile Char.isDigit := not_mem_takeWhile rfl
    rw [braceNumbers_number number, holdsNumber_dollar (fun _ => by simp),
      holdsNumber_cons (by decide), holdsNumber_append free, holdsNumber_cons (by decide), ih]
    rfl
  | case5 c rest _ other ih => rw [braceNumbers_cons other, holdsNumber_cons other, ih]

/-- Bracing changes exactly the texts that hold a numbered reference. -/
theorem braceNumbers_eq_self_iff : braceNumbers text = text ↔ holdsNumber text = false := by
  constructor
  · intro same
    rw [← same]
    exact holdsNumber_braceNumbers text
  · exact braceNumbers_eq_self

/-! ### Bytes -/

/-- What a byte is to numbered references. -/
def Sign.ofByte (b : UInt8) : Sign :=
  if b = 0x24 then .dollar else if 0x30 ≤ b ∧ b ≤ 0x39 then .digit else .other

/-- The bytes of a text. -/
def bytesOf (text : List Char) : List UInt8 :=
  (String.ofList text).toByteArray.data.toList

/-- A glyph in bytes. -/
def Glyph.encode : Glyph Char → List (Glyph UInt8)
  | kept c => (String.utf8EncodeChar c).map kept
  | opening => [.opening]
  | closing => [.closing]

theorem bytesOf_eq_flatMap (text : List Char) :
    bytesOf text = text.flatMap String.utf8EncodeChar := by
  rw [bytesOf, String.toByteArray_ofList, List.utf8Encode, List.data_toByteArray]

/-- A character of one byte is to references what its byte is. -/
theorem Sign.ofByte_of_ascii (ascii : c.val.toNat ≤ 127) :
    Sign.ofByte (UInt8.ofNat c.val.toNat) = Sign.ofChar c := by
  have byte : (UInt8.ofNat c.val.toNat).toNat = c.val.toNat := by
    rw [UInt8.toNat_ofNat']
    omega
  have dollar : UInt8.ofNat c.val.toNat = 0x24 ↔ c = '$' := by
    rw [← UInt8.toNat_inj, byte, ← Char.toNat_inj]
    rfl
  have digit : (0x30 ≤ UInt8.ofNat c.val.toNat ∧ UInt8.ofNat c.val.toNat ≤ 0x39) ↔
      c.isDigit = true := by
    rw [UInt8.le_iff_toNat_le, UInt8.le_iff_toNat_le, byte, Char.isDigit, Bool.and_eq_true,
      decide_eq_true_iff, decide_eq_true_iff, ge_iff_le, UInt32.le_iff_toNat_le,
      UInt32.le_iff_toNat_le]
    rfl
  simp only [Sign.ofByte, Sign.ofChar, dollar, digit]

theorem Sign.ofByte_of_high {b : UInt8} (high : 128 ≤ b.toNat) : Sign.ofByte b = .other := by
  have notDollar : b ≠ 0x24 := by
    rintro rfl
    exact absurd high (by decide)
  have notDigit : ¬(0x30 ≤ b ∧ b ≤ 0x39) := by
    rintro ⟨-, low⟩
    have : b.toNat ≤ 57 := UInt8.le_iff_toNat_le.mp low
    omega
  rw [Sign.ofByte, if_neg notDollar, if_neg notDigit]

theorem high_of_mem_utf8EncodeChar (long : ¬c.val.toNat ≤ 127) :
    ∀ b ∈ String.utf8EncodeChar c, 128 ≤ b.toNat := by
  unfold String.utf8EncodeChar
  simp only [if_neg long]
  -- Two, three or four bytes.
  repeat' split
  all_goals
    simp only [List.forall_mem_cons, UInt8.toNat_ofNat', List.not_mem_nil, false_imp_iff,
      implies_true, and_true]
    omega

theorem Sign.ofChar_of_long (long : ¬c.val.toNat ≤ 127) : Sign.ofChar c = .other := by
  have notDollar : c ≠ '$' := by
    rintro rfl
    exact long (by decide)
  have notDigit : c.isDigit = false := by
    apply Bool.eq_false_iff.mpr
    intro digit
    rw [Char.isDigit, Bool.and_eq_true, decide_eq_true_iff, decide_eq_true_iff] at digit
    have : c.val.toNat ≤ 57 := UInt32.le_iff_toNat_le.mp digit.2
    omega
  exact Sign.ofChar_other notDollar notDigit

/-- Reading the bytes of a character is reading the character. -/
theorem glyphs_utf8EncodeChar (place : Place) (c : Char) (rest : List UInt8) :
    glyphs Sign.ofByte place (String.utf8EncodeChar c ++ rest) =
      place.brace (some (Sign.ofChar c)) ++ ((String.utf8EncodeChar c).map Glyph.kept ++
        glyphs Sign.ofByte (place.behind (Sign.ofChar c)) rest) := by
  by_cases ascii : c.val.toNat ≤ 127
  · have single : String.utf8EncodeChar c = [UInt8.ofNat c.val.toNat] := if_pos ascii
    rw [single, List.singleton_append, glyphs, Sign.ofByte_of_ascii ascii]
    rfl
  · -- Neither the character nor one of its bytes is a dollar sign or a digit.
    have other : Sign.ofChar c = .other := Sign.ofChar_of_long ascii
    have others : ∀ b ∈ String.utf8EncodeChar c, Sign.ofByte b = .other :=
      fun b mem => Sign.ofByte_of_high (high_of_mem_utf8EncodeChar ascii b mem)
    have nonempty : String.utf8EncodeChar c ≠ [] := by
      apply List.ne_nil_of_length_pos
      rw [String.length_utf8EncodeChar]
      exact c.utf8Size_pos
    obtain ⟨first, more, bytes⟩ := List.exists_cons_of_ne_nil nonempty
    rw [bytes] at others ⊢
    obtain ⟨here, later⟩ := List.forall_mem_cons.mp others
    have plain : place.behind .other = .plain := by cases place <;> rfl
    rw [List.cons_append, glyphs, here, other, plain, glyphs_append_of_other later]
    rfl

theorem encode_brace (place : Place) (next : Option Sign) :
    (place.brace next).flatMap Glyph.encode = place.brace next := by
  cases place <;> rcases next with _ | _ | _ <;> rfl

/-- **The same braces are due when a text is read byte by byte.** -/
theorem glyphs_bytesOf (place : Place) (text : List Char) :
    glyphs Sign.ofByte place (bytesOf text) =
      (glyphs Sign.ofChar place text).flatMap Glyph.encode := by
  rw [bytesOf_eq_flatMap]
  induction text generalizing place with
  | nil => exact (encode_brace place none).symm
  | cons c text ih =>
    rw [List.flatMap_cons, glyphs_utf8EncodeChar, ih, glyphs, List.flatMap_append, encode_brace,
      List.flatMap_cons]
    rfl

theorem spell_encode (glyph : Glyph Char) :
    glyph.encode.map (Glyph.spell 0x7b 0x7d) = String.utf8EncodeChar (glyph.spell '{' '}') := by
  cases glyph with
  | kept c => simp [Glyph.encode, Glyph.spell, Function.comp_def]
  | opening => rfl
  | closing => rfl

/-- **Bracing settles a replacement and adds nothing but braces.** When two dollar signs
are taken as a pair, no other dollar sign of the braced text has a digit behind it, so
bracing it once more changes nothing; a replacement that has none to begin with is left as
it is, and every other one is changed. The braced text is the replacement with an opening
brace between a dollar sign that is not the second of a pair and a digit, and with a
closing brace behind the last digit of the number that starts there. Without these braces
it is the replacement again, character by character. The same braces are due when the
bytes of the replacement are read one by one, none of them inside a character, so in bytes,
too, nothing else is added, and nothing is lost or moved. -/
theorem braceNumbers_settled (replacement : List Char) :
    holdsNumber (braceNumbers replacement) = false ∧
    braceNumbers (braceNumbers replacement) = braceNumbers replacement ∧
    (braceNumbers replacement = replacement ↔ holdsNumber replacement = false) ∧
    let read := glyphs Sign.ofChar .plain replacement
    read.map (Glyph.spell '{' '}') = braceNumbers replacement ∧
    read.filterMap Glyph.kept? = replacement ∧
    let readBytes := glyphs Sign.ofByte .plain (bytesOf replacement)
    readBytes = read.flatMap Glyph.encode ∧
    readBytes.map (Glyph.spell 0x7b 0x7d) = bytesOf (braceNumbers replacement) ∧
    readBytes.filterMap Glyph.kept? = bytesOf replacement := by
  have unnumbered := holdsNumber_braceNumbers replacement
  refine ⟨unnumbered, braceNumbers_eq_self_iff.mpr unnumbered, braceNumbers_eq_self_iff, ?_⟩
  intro read
  refine ⟨spell_glyphs replacement, kept_glyphs _ _ replacement, ?_⟩
  intro readBytes
  have encoded : readBytes = read.flatMap Glyph.encode := glyphs_bytesOf .plain replacement
  refine ⟨encoded, ?_, kept_glyphs _ _ _⟩
  calc readBytes.map (Glyph.spell 0x7b 0x7d)
      = read.flatMap fun glyph => glyph.encode.map (Glyph.spell 0x7b 0x7d) := by
        rw [encoded, List.map_flatMap]
    _ = (read.map (Glyph.spell '{' '}')).flatMap String.utf8EncodeChar := by
        simp only [spell_encode, List.flatMap_map]
    _ = bytesOf (braceNumbers replacement) := by rw [spell_glyphs, bytesOf_eq_flatMap]

-- Of three dollar signs the last one refers to a group; at the end one stands alone.
example :
    braceNumbers ['$', '$', '$', '1', '0', 'é', '$', '$', '2', '$'] =
      ['$', '$', '$', '{', '1', '0', '}', 'é', '$', '$', '2', '$'] := by
  decide +kernel

end Bindery.Naming

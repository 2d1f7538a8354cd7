/-
Where the words of an identifier start.

A word starts at the first character of an identifier and at every upper-case
character that follows a character that is not upper case or precedes one that is
lower case (`StartsAt`), whatever upper and lower case are taken to be. The words
are found from the end of the identifier to its start, and each step decides about
one position only. The main statements are

* `mem_starts_splitWords`, that the words of a text start at these positions and at
  no others;
* `splitWords_of_mem_splitWords`, that a word is split no further: what follows it
  can be a reason to start a word at its end, but no reason is left inside;
* `isSlice_of_eq_append`, that the parts of a text are slices of it whose ends fall
  between characters, however many bytes a character takes;
* `wordsBy_boundaries`, all this for the words of an identifier.
-/

import Bindery.Naming.Words
import Mathlib.Data.List.Pairwise

namespace Bindery.Naming

variable {upper lower : Char → Bool} {c next : Char} {text rest : List Char} {i : Nat}

/-! ### The rule -/

/-- Whether a word starts at a position of a text. -/
def StartsAt (upper lower : Char → Bool) (text : List Char) (i : Nat) : Prop :=
  ∃ _ : i < text.length, i = 0 ∨ upper text[i] = true ∧
    (upper text[i - 1] = false ∨ ∃ _ : i + 1 < text.length, lower text[i + 1] = true)

theorem startsAt_zero : StartsAt upper lower (c :: rest) 0 :=
  ⟨Nat.zero_lt_succ _, .inl rfl⟩

theorem startsAt_one :
    StartsAt upper lower (c :: next :: rest) 1 ↔
      startsWord upper lower c next rest.head? = true := by
  cases rest with
  | nil => simp [StartsAt, startsWord]
  | cons after rest => simp [StartsAt, startsWord]

/-- Behind the second character the first one plays no role. -/
theorem startsAt_add_two :
    StartsAt upper lower (c :: text) (i + 2) ↔ StartsAt upper lower text (i + 1) := by
  constructor
  · rintro ⟨within, rule⟩
    exact ⟨Nat.lt_of_succ_lt_succ within, by simpa using rule⟩
  · rintro ⟨within, rule⟩
    exact ⟨Nat.succ_lt_succ within, by simpa using rule⟩

/-! ### The positions of parts -/

/-- The positions at which parts of given lengths start when they follow one
another, the first of them at `position`. -/
def starts (position : Nat) : List Nat → List Nat
  | [] => []
  | length :: lengths => position :: starts (position + length) lengths

theorem le_of_mem_starts {position : Nat} {lengths : List Nat} (mem : i ∈ starts position lengths) :
    position ≤ i := by
  induction lengths generalizing position with
  | nil => cases mem
  | cons length lengths ih =>
    rcases List.mem_cons.mp mem with rfl | later
    · exact Nat.le_refl _
    · exact Nat.le_of_add_right_le (ih later)

theorem succ_mem_starts_succ {position : Nat} {lengths : List Nat} :
    i + 1 ∈ starts (position + 1) lengths ↔ i ∈ starts position lengths := by
  induction lengths generalizing position with
  | nil => simp [starts]
  | cons length lengths ih => simp [starts, Nat.add_right_comm position 1 length, ih]

/-- Parts that are not empty start one after the other. -/
theorem pairwise_starts {position : Nat} {lengths : List Nat}
    (positive : ∀ length ∈ lengths, 0 < length) :
    (starts position lengths).Pairwise (· < ·) := by
  induction lengths generalizing position with
  | nil => exact .nil
  | cons length lengths ih =>
    obtain ⟨here, later⟩ := List.forall_mem_cons.mp positive
    refine List.pairwise_cons.mpr ⟨?_, ih later⟩
    intro i mem
    have := le_of_mem_starts mem
    omega

/-! ### The words of a text -/

/-- **The words of a text start where the rule says.** -/
theorem mem_starts_splitWords (text : List Char) (i : Nat) :
    i ∈ starts 0 ((splitWords upper lower text).map List.length) ↔ StartsAt upper lower text i := by
  fun_induction splitWords upper lower text generalizing i with
  | case1 => simp [starts, StartsAt]
  | case2 c =>
    constructor
    · intro mem
      obtain rfl : i = 0 := by simpa [starts] using mem
      exact startsAt_zero
    · rintro ⟨within, -⟩
      simpa [starts] using within
  | case3 c next rest first ih =>
    simp only [List.map_cons, List.length_singleton, starts, List.mem_cons]
    rcases i with _ | _ | i
    · simp [startsAt_zero]
    · simp [startsAt_one, first, succ_mem_starts_succ, ih, startsAt_zero]
    · simp [startsAt_add_two, succ_mem_starts_succ, ih]
  | case4 c next rest _ none =>
    have whole := flatten_splitWords upper lower (next :: rest)
    simp [none] at whole
  | case5 c next rest notFirst word others split ih =>
    have mem : word ∈ splitWords upper lower (next :: rest) := split ▸ List.mem_cons_self
    have nonempty : word ≠ [] := ne_nil_of_mem_splitWords mem
    simp only [split, List.map_cons, starts, List.mem_cons, Nat.zero_add] at ih
    simp only [List.map_cons, List.length_cons, starts, List.mem_cons, Nat.zero_add]
    rcases i with _ | _ | i
    · simp [startsAt_zero]
    · -- The second character belongs to the word of the first, and so the rule says.
      have apart : 0 ∉ starts word.length (others.map List.length) := by
        intro mem
        have := le_of_mem_starts mem
        have := List.length_pos_iff.mpr nonempty
        omega
      simp [startsAt_one, notFirst, succ_mem_starts_succ, apart]
    · have later := ih (i + 1)
      simp only [Nat.add_one_ne_zero, false_or] at later
      simp [startsAt_add_two, succ_mem_starts_succ, later]

/-- A character that starts no word in front of a text starts none in front of an
initial part of it. -/
theorem startsWord_eq_false_of_append {word : List Char}
    (notFirst : ¬ startsWord upper lower c next (word ++ rest).head? = true) :
    ¬ startsWord upper lower c next word.head? = true := by
  cases word with
  | nil =>
    intro first
    apply notFirst
    have alone : upper next = true ∧ upper c = false := by simpa [startsWord] using first
    simp [startsWord, alone]
  | cons after word => exact notFirst

/-- **A word is split no further.** -/
theorem splitWords_of_mem_splitWords {word : List Char} (mem : word ∈ splitWords upper lower text) :
    splitWords upper lower word = [word] := by
  fun_induction splitWords upper lower text generalizing word with
  | case1 => cases mem
  | case2 c =>
    obtain rfl := List.mem_singleton.mp mem
    rfl
  | case3 c next rest _ ih =>
    rcases List.mem_cons.mp mem with rfl | later
    · rfl
    · exact ih later
  | case4 c next rest _ none =>
    obtain rfl := List.mem_singleton.mp mem
    rfl
  | case5 c next rest notFirst first others split ih =>
    rw [split] at ih
    rcases List.mem_cons.mp mem with rfl | later
    · have whole := flatten_splitWords upper lower (next :: rest)
      rw [split, List.flatten_cons] at whole
      cases first with
      | nil =>
        have nonempty := ne_nil_of_mem_splitWords (split ▸ List.mem_cons_self)
        exact absurd rfl nonempty
      | cons second first =>
        obtain ⟨rfl, rfl⟩ := List.cons.inj whole
        rw [splitWords, if_neg (startsWord_eq_false_of_append notFirst), ih List.mem_cons_self]
    · exact ih (List.mem_cons_of_mem _ later)

/-! ### Identifiers -/

/-- The words of an identifier, for given classes of characters. -/
def wordsBy (upper lower : Char → Bool) (identifier : String) : List String :=
  (splitWords upper lower identifier.toList).map String.ofList

/-- Whether a part of a text stands between two byte positions of it, which both
fall between characters. -/
structure IsSlice (text part : String) (start stop : String.Pos.Raw) : Prop where
  start_valid : start.IsValid text
  stop_valid : stop.IsValid text
  bytes : text.toByteArray.extract start.byteIdx stop.byteIdx = part.toByteArray

/-- What stands between two other parts of a text is a slice of it. -/
theorem isSlice_of_eq_append {text before part after : String}
    (whole : text = before ++ part ++ after) :
    IsSlice text part before.rawEndPos (before ++ part).rawEndPos where
  start_valid := by
    rw [String.append_assoc] at whole
    exact String.Pos.Raw.isValid_iff_exists_append.mpr ⟨before, part ++ after, whole, rfl⟩
  stop_valid := String.Pos.Raw.isValid_iff_exists_append.mpr ⟨before ++ part, after, whole, rfl⟩
  bytes := by
    have skipped : (before ++ part).toByteArray.extract before.rawEndPos.byteIdx
        (before ++ part).rawEndPos.byteIdx = part.toByteArray := by
      rw [String.toByteArray_append]
      refine ByteArray.extract_append_eq_right rfl ?_
      simp
    rw [whole, String.toByteArray_append, ← skipped]
    exact ByteArray.extract_append_size_left

theorem join_map_ofList (parts : List (List Char)) :
    String.join (parts.map String.ofList) = String.ofList parts.flatten := by
  induction parts with
  | nil => rfl
  | cons part parts ih =>
    rw [List.map_cons, String.join_cons, ih, List.flatten_cons, String.ofList_append]

theorem join_wordsBy (upper lower : Char → Bool) (identifier : String) :
    String.join (wordsBy upper lower identifier) = identifier := by
  rw [wordsBy, join_map_ofList, flatten_splitWords, String.ofList_toList]

/-- **Splitting an identifier into words**, whatever upper and lower case are. The
words are not empty and give the identifier when put together, so the empty
identifier has none. They start, from left to right, at the first character and at
each upper-case character that follows one that is not upper case or precedes one
that is lower case, and nowhere else. A word by itself is one word. In the bytes of
the identifier each word is a slice whose ends fall between characters. The words
of an identifier are those for the two classes of Unicode. -/
theorem wordsBy_boundaries (upper lower : Char → Bool) (identifier : String) :
    let text := identifier.toList
    let words := wordsBy upper lower identifier
    String.join words = identifier ∧
    (words = [] ↔ identifier = "") ∧
    (∀ word ∈ words, word ≠ "" ∧ wordsBy upper lower word = [word]) ∧
    (starts 0 (words.map String.length)).Pairwise (· < ·) ∧
    (∀ i, i ∈ starts 0 (words.map String.length) ↔
      ∃ _ : i < text.length, i = 0 ∨ upper text[i] = true ∧
        (upper text[i - 1] = false ∨ ∃ _ : i + 1 < text.length, lower text[i + 1] = true)) ∧
    (∀ before word after, words = before ++ word :: after →
      IsSlice identifier word (String.join before).rawEndPos
        (String.join before ++ word).rawEndPos) ∧
    Naming.words identifier = wordsBy Unicode.isUpper Unicode.isLower identifier := by
  intro text words
  have lengths : words.map String.length = (splitWords upper lower text).map List.length := by
    simp [words, wordsBy, text, Function.comp_def]
  have joined := join_wordsBy upper lower identifier
  have nonempty : ∀ word ∈ words, word ≠ "" := by
    intro word mem
    obtain ⟨chars, split, rfl⟩ := List.mem_map.mp mem
    simpa using ne_nil_of_mem_splitWords split
  refine ⟨joined, ?_, ?_, ?_, ?_, ?_, rfl⟩
  · constructor
    · intro none
      rw [← joined]
      exact congrArg String.join none
    · rintro rfl
      rfl
  · intro word mem
    refine ⟨nonempty word mem, ?_⟩
    obtain ⟨chars, split, rfl⟩ := List.mem_map.mp mem
    rw [wordsBy, String.toList_ofList, splitWords_of_mem_splitWords split]
    rfl
  · apply pairwise_starts
    intro length mem
    obtain ⟨word, split, rfl⟩ := List.mem_map.mp mem
    exact Nat.pos_of_ne_zero fun zero => nonempty word split (String.length_eq_zero_iff.mp zero)
  · intro i
    rw [lengths]
    exact mem_starts_splitWords text i
  · intro before word after split
    have whole : identifier = String.join before ++ word ++ String.join after := by
      rw [String.append_assoc, ← String.join_cons, ← String.join_append, ← split, joined]
    exact isSlice_of_eq_append whole

end Bindery.Naming

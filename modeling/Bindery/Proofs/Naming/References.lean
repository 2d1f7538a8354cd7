/-
Numbered references in replacement texts.

A replacement text is a template in which a dollar sign and digits refer to the
group of that number, whatever stands behind the digits. `expandNumbered` writes
a replacement out by these rules. What is executed instead is `braceNumbers`,
which puts numbered references in braces, followed by `expand`, which knows
nothing of them. The two agree unless a reference that is put in braces stands
in braces already: there the new brace comes too early. `coversNumber` tells
whether a numbered reference stands between an opening brace behind a dollar
sign and the closing brace behind it, or behind an opening brace that is never
closed. The main statements are

* `braceNumbers_append_cons`, where a text may be cut before its references are
  put in braces;
* `expand_braceNumbers_number` and its companions, one equation for each way of
  reading a dollar sign;
* `exists_cutBrace_braceNumbers`, that a brace that is put in where a name in
  braces was meant ends another name;
* `expand_braceNumbers_iff`, that the two expansions are the same for every
  assignment of texts to groups exactly when no numbered reference is covered.
-/

import Bindery.Naming.Replacement

namespace Bindery.Naming

open Bindery.Pattern

/-! ### The rules of replacement texts -/

/-- The replacement written out, where `group` gives the text of a reference by
its name. The rules are those of templates, but a dollar sign and digits refer
to the group of that number and to nothing more. -/
def expandNumbered (group : List Char → List Char) : List Char → List Char
  | [] => []
  | '$' :: '$' :: rest => '$' :: expandNumbered group rest
  | '$' :: '{' :: rest =>
    match h : cutBrace rest with
    | some (name, after) =>
      have : after.length < rest.length := length_lt_of_cutBrace h
      group name ++ expandNumbered group after
    | none => '$' :: '{' :: expandNumbered group rest
  | '$' :: rest =>
    have : (rest.dropWhile Char.isDigit).length ≤ rest.length :=
      length_dropWhile_le Char.isDigit rest
    have : (rest.dropWhile isReferenceChar).length ≤ rest.length :=
      length_dropWhile_le isReferenceChar rest
    match rest.takeWhile Char.isDigit with
    | [] =>
      match rest.takeWhile isReferenceChar with
      | [] => '$' :: expandNumbered group rest
      | name => group name ++ expandNumbered group (rest.dropWhile isReferenceChar)
    | digits => group digits ++ expandNumbered group (rest.dropWhile Char.isDigit)
  | c :: rest => c :: expandNumbered group rest
termination_by replacement => replacement.length

/-- Whether a text holds a dollar sign with a digit behind it, when two dollar
signs are taken as a pair. -/
def holdsNumber : List Char → Bool
  | '$' :: '$' :: rest => holdsNumber rest
  | '$' :: rest => rest.head?.any Char.isDigit || holdsNumber rest
  | _ :: rest => holdsNumber rest
  | [] => false

/-- Whether a numbered reference stands in the braces of another reference, or
behind an opening brace that is never closed. -/
def coversNumber : List Char → Bool
  | [] => false
  | '$' :: '$' :: rest => coversNumber rest
  | '$' :: '{' :: rest =>
    match h : cutBrace rest with
    | some (name, after) =>
      have : after.length < rest.length := length_lt_of_cutBrace h
      holdsNumber name || coversNumber after
    | none => holdsNumber rest
  | _ :: rest => coversNumber rest
termination_by replacement => replacement.length

variable {group : List Char → List Char} {text name front rest after : List Char} {c : Char}

/-! ### Closing braces -/

theorem cutBrace_cons (other : c ≠ '}') (rest : List Char) :
    cutBrace (c :: rest) = (cutBrace rest).map fun (name, after) => (c :: name, after) :=
  cutBrace.eq_3 c rest other

/-- A text is cut at its first closing brace. -/
theorem cutBrace_append (unclosed : '}' ∉ name) (after : List Char) :
    cutBrace (name ++ '}' :: after) = some (name, after) := by
  induction name with
  | nil => rfl
  | cons c name ih =>
    have other := List.ne_of_not_mem_cons unclosed
    rw [List.cons_append, cutBrace_cons other.symm, ih (List.not_mem_of_not_mem_cons unclosed)]
    rfl

theorem eq_append_of_cutBrace (cut : cutBrace text = some (name, after)) :
    text = name ++ '}' :: after ∧ '}' ∉ name := by
  fun_induction cutBrace text generalizing name with
  | case1 => cases cut
  | case2 rest =>
    cases cut
    exact ⟨rfl, List.not_mem_nil⟩
  | case3 c rest other ih =>
    obtain ⟨⟨name, after⟩, cut, same⟩ := Option.map_eq_some_iff.mp cut
    cases same
    obtain ⟨rfl, unclosed⟩ := ih cut
    exact ⟨rfl, List.not_mem_cons_of_ne_of_not_mem (fun same => other same.symm) unclosed⟩

theorem not_mem_of_cutBrace (cut : cutBrace text = none) : '}' ∉ text := by
  fun_induction cutBrace text with
  | case1 => exact List.not_mem_nil
  | case2 rest => cases cut
  | case3 c rest other ih =>
    exact List.not_mem_cons_of_ne_of_not_mem (fun same => other same.symm)
      (ih (Option.map_eq_none_iff.mp cut))

/-! ### Bracing -/

theorem braceNumbers_cons (other : c ≠ '$') (rest : List Char) :
    braceNumbers (c :: rest) = c :: braceNumbers rest :=
  braceNumbers.eq_4 c rest (fun _ same => absurd same other) other

theorem braceNumbers_dollar (noPair : ∀ more, rest ≠ '$' :: more)
    (noNumber : rest.takeWhile Char.isDigit = []) :
    braceNumbers ('$' :: rest) = '$' :: braceNumbers rest := by
  rw [braceNumbers.eq_3 rest noPair, noNumber]

theorem braceNumbers_number (number : rest.takeWhile Char.isDigit ≠ []) :
    braceNumbers ('$' :: rest) =
      '$' :: '{' :: (rest.takeWhile Char.isDigit ++
        '}' :: braceNumbers (rest.dropWhile Char.isDigit)) := by
  have noPair : ∀ more, rest ≠ '$' :: more := by
    rintro more rfl
    exact number rfl
  rw [braceNumbers.eq_3 rest noPair]
  split
  · rename_i none'
    exact absurd none' number
  · rfl

theorem braceNumbers_ne_cons (other : ∀ more, text ≠ c :: more) (more : List Char) :
    braceNumbers text ≠ c :: more := by
  intro same
  have head := head?_braceNumbers text
  rw [same, List.head?_cons] at head
  obtain ⟨more, eq⟩ := List.head?_eq_some_iff.mp head.symm
  exact other more eq

/-- Text without dollar signs stays as it is. -/
theorem braceNumbers_append (free : '$' ∉ front) (rest : List Char) :
    braceNumbers (front ++ rest) = front ++ braceNumbers rest := by
  induction front with
  | nil => rfl
  | cons c front ih =>
    have other := List.ne_of_not_mem_cons free
    rw [List.cons_append, braceNumbers_cons other.symm, ih (List.not_mem_of_not_mem_cons free)]
    rfl

theorem not_mem_takeWhile {p : Char → Bool} (fails : p c = false) : c ∉ text.takeWhile p := by
  intro mem
  have holds := List.all_eq_true.mp (List.all_takeWhile (l := text) (p := p)) c mem
  exact Bool.false_ne_true (fails.symm.trans holds)

theorem takeWhile_append_cons {p : Char → Bool} (stops : p c = false) (front rest : List Char) :
    (front ++ c :: rest).takeWhile p = front.takeWhile p := by
  induction front with
  | nil => simp [stops]
  | cons d front ih => simp only [List.cons_append, List.takeWhile_cons, ih]

theorem dropWhile_append_cons {p : Char → Bool} (stops : p c = false) (front rest : List Char) :
    (front ++ c :: rest).dropWhile p = front.dropWhile p ++ c :: rest := by
  induction front with
  | nil => simp [stops]
  | cons d front ih =>
    simp only [List.cons_append, List.dropWhile_cons, ih]
    split <;> rfl

theorem append_cons_ne_cons {d : Char} (other : ∀ more, front ≠ d :: more) (differs : c ≠ d)
    (rest more : List Char) : front ++ c :: rest ≠ d :: more := by
  intro same
  cases front with
  | nil => exact differs (List.cons.inj same).1
  | cons first front => exact other front (by rw [(List.cons.inj same).1])

/-- A text may be cut before a character that is neither a dollar sign nor a
digit. -/
theorem braceNumbers_append_cons (front : List Char) (notDollar : c ≠ '$')
    (notDigit : c.isDigit = false) (rest : List Char) :
    braceNumbers (front ++ c :: rest) = braceNumbers front ++ c :: braceNumbers rest := by
  induction front using braceNumbers.induct with
  | case1 => rw [List.nil_append, braceNumbers_cons notDollar, braceNumbers, List.nil_append]
  | case2 front ih => simp only [List.cons_append, braceNumbers, ih]
  | case3 front noPair _ noNumber ih =>
    have noPair' := append_cons_ne_cons noPair notDollar rest
    have noNumber' : (front ++ c :: rest).takeWhile Char.isDigit = [] := by
      rw [takeWhile_append_cons notDigit, noNumber]
    rw [List.cons_append, braceNumbers_dollar noPair' noNumber', ih,
      braceNumbers_dollar noPair noNumber]
    rfl
  | case4 front noPair _ number ih =>
    have number' : (front ++ c :: rest).takeWhile Char.isDigit ≠ [] := by
      rwa [takeWhile_append_cons notDigit]
    rw [List.cons_append, braceNumbers_number number', braceNumbers_number number,
      takeWhile_append_cons notDigit, dropWhile_append_cons notDigit, ih]
    simp only [List.cons_append, List.append_assoc]
  | case5 d front _ other ih =>
    rw [List.cons_append, braceNumbers_cons other, ih, braceNumbers_cons other]
    rfl

/-! ### Numbered references -/

theorem holdsNumber_cons (other : c ≠ '$') (rest : List Char) :
    holdsNumber (c :: rest) = holdsNumber rest :=
  holdsNumber.eq_3 c rest (fun _ same => absurd same other) other

theorem holdsNumber_dollar (noPair : ∀ more, rest ≠ '$' :: more) :
    holdsNumber ('$' :: rest) = (rest.head?.any Char.isDigit || holdsNumber rest) :=
  holdsNumber.eq_2 rest noPair

theorem takeWhile_eq_nil_iff {p : Char → Bool} :
    text.takeWhile p = [] ↔ text.head?.any p = false := by
  cases text with
  | nil => simp
  | cons c rest => cases holds : p c <;> simp [holds]

/-- The references of a text are those in front of a closing brace and those
behind it. -/
theorem holdsNumber_append_brace (front rest : List Char) :
    holdsNumber (front ++ '}' :: rest) = (holdsNumber front || holdsNumber rest) := by
  induction front using holdsNumber.induct with
  | case1 front ih => simpa only [List.cons_append, holdsNumber] using ih
  | case2 front noPair ih =>
    have noPair' : ∀ more, front ++ '}' :: rest ≠ '$' :: more :=
      append_cons_ne_cons noPair (by decide) rest
    have head : (front ++ '}' :: rest).head?.any Char.isDigit = front.head?.any Char.isDigit := by
      cases front with
      | nil => rfl
      | cons d front => rfl
    rw [List.cons_append, holdsNumber_dollar noPair', holdsNumber_dollar noPair, head, ih,
      Bool.or_assoc]
  | case3 c front _ other ih =>
    rw [List.cons_append, holdsNumber_cons other, holdsNumber_cons other, ih]
  | case4 => exact holdsNumber_cons (by decide) rest

/-- Bracing changes nothing where there is no numbered reference. -/
theorem braceNumbers_eq_self (unnumbered : holdsNumber text = false) :
    braceNumbers text = text := by
  induction text using holdsNumber.induct with
  | case1 rest ih => rw [braceNumbers, ih unnumbered]
  | case2 rest noPair ih =>
    rw [holdsNumber_dollar noPair, Bool.or_eq_false_iff] at unnumbered
    rw [braceNumbers_dollar noPair (takeWhile_eq_nil_iff.mpr unnumbered.1), ih unnumbered.2]
  | case3 c rest _ other ih =>
    rw [holdsNumber_cons other] at unnumbered
    rw [braceNumbers_cons other, ih unnumbered]
  | case4 => rw [braceNumbers]

/-- **A brace that is put in ends another name than the one that was meant.** -/
theorem exists_cutBrace_braceNumbers (numbered : holdsNumber name = true) (unclosed : '}' ∉ name)
    (tail : List Char) :
    ∃ other after, cutBrace (braceNumbers name ++ tail) = some (other, after) ∧ other ≠ name := by
  induction name using holdsNumber.induct with
  | case1 rest ih =>
    have unclosed' := List.not_mem_of_not_mem_cons (List.not_mem_of_not_mem_cons unclosed)
    obtain ⟨other, after, cut, differs⟩ := ih numbered unclosed'
    refine ⟨'$' :: '$' :: other, after, ?_, by simpa using differs⟩
    rw [braceNumbers, List.cons_append, List.cons_append, cutBrace_cons (by decide),
      cutBrace_cons (by decide), cut]
    rfl
  | case2 rest noPair ih =>
    by_cases number : rest.takeWhile Char.isDigit = []
    · rw [holdsNumber_dollar noPair, takeWhile_eq_nil_iff.mp number, Bool.false_or] at numbered
      obtain ⟨other, after, cut, differs⟩ := ih numbered (List.not_mem_of_not_mem_cons unclosed)
      refine ⟨'$' :: other, after, ?_, by simpa using differs⟩
      rw [braceNumbers_dollar noPair number, List.cons_append, cutBrace_cons (by decide), cut]
      rfl
    · -- The new brace closes the number, with an opening brace in front of it.
      have closed : '}' ∉ '$' :: '{' :: rest.takeWhile Char.isDigit := by
        have free : '}' ∉ rest.takeWhile Char.isDigit := not_mem_takeWhile rfl
        simpa using free
      refine ⟨'$' :: '{' :: rest.takeWhile Char.isDigit,
        braceNumbers (rest.dropWhile Char.isDigit) ++ tail, ?_, ?_⟩
      · rw [braceNumbers_number number]
        simp only [List.cons_append, List.append_assoc]
        exact cutBrace_append closed _
      · intro same
        cases rest with
        | nil => exact number rfl
        | cons d rest =>
          obtain rfl : '{' = d := (List.cons.inj (List.cons.inj same).2).1
          exact number rfl
  | case3 c rest _ other ih =>
    rw [holdsNumber_cons other] at numbered
    obtain ⟨name, after, cut, differs⟩ := ih numbered (List.not_mem_of_not_mem_cons unclosed)
    refine ⟨c :: name, after, ?_, by simpa using differs⟩
    rw [braceNumbers_cons other, List.cons_append,
      cutBrace_cons (List.ne_of_not_mem_cons unclosed).symm, cut]
    rfl
  | case4 => cases numbered

/-! ### Covered references -/

theorem coversNumber_cons (other : c ≠ '$') (rest : List Char) :
    coversNumber (c :: rest) = coversNumber rest :=
  coversNumber.eq_4 c rest (fun _ same => absurd same other) fun _ same => absurd same other

theorem coversNumber_dollar (noPair : ∀ more, rest ≠ '$' :: more)
    (noBrace : ∀ more, rest ≠ '{' :: more) : coversNumber ('$' :: rest) = coversNumber rest :=
  coversNumber.eq_4 '$' rest (fun more _ => noPair more) fun more _ => noBrace more

theorem coversNumber_braced (cut : cutBrace rest = some (name, after)) :
    coversNumber ('$' :: '{' :: rest) = (holdsNumber name || coversNumber after) := by
  rw [coversNumber]
  split <;> simp_all

theorem coversNumber_unclosed (cut : cutBrace rest = none) :
    coversNumber ('$' :: '{' :: rest) = holdsNumber rest := by
  rw [coversNumber]
  split <;> simp_all

/-- Text without dollar signs covers nothing. -/
theorem coversNumber_append (free : '$' ∉ front) (rest : List Char) :
    coversNumber (front ++ rest) = coversNumber rest := by
  induction front with
  | nil => rfl
  | cons c front ih =>
    rw [List.cons_append, coversNumber_cons (List.ne_of_not_mem_cons free).symm,
      ih (List.not_mem_of_not_mem_cons free)]

theorem coversNumber_dropWhile {p : Char → Bool} (stops : p '$' = false) (text : List Char) :
    coversNumber (text.dropWhile p) = coversNumber text := by
  have free : '$' ∉ text.takeWhile p := not_mem_takeWhile stops
  rw [← coversNumber_append free, List.takeWhile_append_dropWhile]

/-- Where there is no numbered reference, none is covered. -/
theorem coversNumber_eq_false (unnumbered : holdsNumber text = false) :
    coversNumber text = false := by
  induction text using coversNumber.induct with
  | case1 => rw [coversNumber]
  | case2 rest ih => rw [coversNumber, ih unnumbered]
  | case3 rest name after cut _ ih =>
    obtain ⟨rfl, -⟩ := eq_append_of_cutBrace cut
    rw [holdsNumber_dollar (fun _ => by simp), holdsNumber_cons (by decide),
      holdsNumber_append_brace, Bool.or_eq_false_iff, Bool.or_eq_false_iff] at unnumbered
    rw [coversNumber_braced cut, unnumbered.2.1, ih unnumbered.2.2]
    rfl
  | case4 rest cut =>
    rw [holdsNumber_dollar (fun _ => by simp), holdsNumber_cons (by decide),
      Bool.or_eq_false_iff] at unnumbered
    rw [coversNumber_unclosed cut, unnumbered.2]
  | case5 c rest noPair noBrace ih =>
    rw [coversNumber.eq_4 c rest noPair noBrace]
    apply ih
    by_cases dollar : c = '$'
    · subst dollar
      rw [holdsNumber_dollar (fun more => noPair more rfl), Bool.or_eq_false_iff] at unnumbered
      exact unnumbered.2
    · rwa [holdsNumber_cons dollar] at unnumbered

/-! ### Reading a dollar sign -/

theorem expand_cons (group : List Char → List Char) (other : c ≠ '$') (rest : List Char) :
    expand group (c :: rest) = c :: expand group rest :=
  expand.eq_5 group c rest (fun _ same => absurd same other) (fun _ same => absurd same other) other

theorem expand_braced (group : List Char → List Char)
    (cut : cutBrace rest = some (name, after)) :
    expand group ('$' :: '{' :: rest) = group name ++ expand group after := by
  rw [expand]
  split <;> simp_all

theorem expand_unclosed (group : List Char → List Char) (cut : cutBrace rest = none) :
    expand group ('$' :: '{' :: rest) = '$' :: '{' :: expand group rest := by
  rw [expand]
  split <;> simp_all

theorem expandNumbered_braced (group : List Char → List Char)
    (cut : cutBrace rest = some (name, after)) :
    expandNumbered group ('$' :: '{' :: rest) = group name ++ expandNumbered group after := by
  rw [expandNumbered]
  split <;> simp_all

theorem expandNumbered_unclosed (group : List Char → List Char) (cut : cutBrace rest = none) :
    expandNumbered group ('$' :: '{' :: rest) = '$' :: '{' :: expandNumbered group rest := by
  rw [expandNumbered]
  split <;> simp_all

theorem expandNumbered_number (group : List Char → List Char)
    (number : rest.takeWhile Char.isDigit ≠ []) :
    expandNumbered group ('$' :: rest) =
      group (rest.takeWhile Char.isDigit) ++
        expandNumbered group (rest.dropWhile Char.isDigit) := by
  have noPair : ∀ more, rest ≠ '$' :: more := by
    rintro more rfl
    exact number rfl
  have noBrace : ∀ more, rest ≠ '{' :: more := by
    rintro more rfl
    exact number rfl
  rw [expandNumbered.eq_4 group rest noPair noBrace]
  split
  · rename_i none'
    exact absurd none' number
  · rfl

theorem expandNumbered_name (group : List Char → List Char)
    (noPair : ∀ more, rest ≠ '$' :: more) (noBrace : ∀ more, rest ≠ '{' :: more)
    (noNumber : rest.takeWhile Char.isDigit = []) (named : rest.takeWhile isReferenceChar ≠ []) :
    expandNumbered group ('$' :: rest) =
      group (rest.takeWhile isReferenceChar) ++
        expandNumbered group (rest.dropWhile isReferenceChar) := by
  rw [expandNumbered.eq_4 group rest noPair noBrace, noNumber]
  split
  · split
    · rename_i nameless
      exact absurd nameless named
    · rfl
  · rename_i number
    exact absurd rfl number

/-- A reference without braces has the same name after bracing, -/
theorem takeWhile_braceNumbers {p : Char → Bool} (stops : p '$' = false) (text : List Char) :
    (braceNumbers text).takeWhile p = text.takeWhile p := by
  induction text with
  | nil => rw [braceNumbers]
  | cons c rest ih =>
    by_cases holds : p c = true
    · have other : c ≠ '$' := by
        rintro rfl
        exact Bool.false_ne_true (stops.symm.trans holds)
      rw [braceNumbers_cons other, List.takeWhile_cons_of_pos holds,
        List.takeWhile_cons_of_pos holds, ih]
    · rw [List.takeWhile_cons_of_neg holds, takeWhile_eq_nil_iff, head?_braceNumbers]
      simpa using holds

/-- and what stands behind it is braced by itself. -/
theorem dropWhile_braceNumbers {p : Char → Bool} (stops : p '$' = false) (text : List Char) :
    (braceNumbers text).dropWhile p = braceNumbers (text.dropWhile p) := by
  have free : '$' ∉ text.takeWhile p := not_mem_takeWhile stops
  have split : braceNumbers text = text.takeWhile p ++ braceNumbers (text.dropWhile p) := by
    rw [← braceNumbers_append free, List.takeWhile_append_dropWhile]
  have whole := List.takeWhile_append_dropWhile (p := p) (l := braceNumbers text)
  rw [takeWhile_braceNumbers stops, split] at whole
  rw [split]
  exact List.append_cancel_left whole

/-- A numbered reference is that group and nothing more. -/
theorem expand_braceNumbers_number (group : List Char → List Char)
    (number : rest.takeWhile Char.isDigit ≠ []) :
    expand group (braceNumbers ('$' :: rest)) =
      group (rest.takeWhile Char.isDigit) ++
        expand group (braceNumbers (rest.dropWhile Char.isDigit)) := by
  have unclosed : '}' ∉ rest.takeWhile Char.isDigit := not_mem_takeWhile rfl
  rw [braceNumbers_number number, expand_braced group (cutBrace_append unclosed _)]

/-- A name that starts with no digit goes on to its end. -/
theorem expand_braceNumbers_name (group : List Char → List Char)
    (noPair : ∀ more, rest ≠ '$' :: more) (noBrace : ∀ more, rest ≠ '{' :: more)
    (noNumber : rest.takeWhile Char.isDigit = []) (named : rest.takeWhile isReferenceChar ≠ []) :
    expand group (braceNumbers ('$' :: rest)) =
      group (rest.takeWhile isReferenceChar) ++
        expand group (braceNumbers (rest.dropWhile isReferenceChar)) := by
  rw [braceNumbers_dollar noPair noNumber,
    expand.eq_4 group _ (braceNumbers_ne_cons noPair) (braceNumbers_ne_cons noBrace),
    takeWhile_braceNumbers rfl, dropWhile_braceNumbers rfl]
  split
  · rename_i nameless
    exact absurd nameless named
  · rfl

/-- A dollar sign in front of anything else stands for itself. -/
theorem expand_braceNumbers_literal (group : List Char → List Char)
    (noPair : ∀ more, rest ≠ '$' :: more) (noBrace : ∀ more, rest ≠ '{' :: more)
    (noNumber : rest.takeWhile Char.isDigit = []) (nameless : rest.takeWhile isReferenceChar = []) :
    expand group (braceNumbers ('$' :: rest)) = '$' :: expand group (braceNumbers rest) := by
  rw [braceNumbers_dollar noPair noNumber,
    expand.eq_4 group _ (braceNumbers_ne_cons noPair) (braceNumbers_ne_cons noBrace),
    takeWhile_braceNumbers rfl, nameless]

theorem braceNumbers_brace (rest : List Char) :
    braceNumbers ('$' :: '{' :: rest) = '$' :: '{' :: braceNumbers rest := by
  rw [braceNumbers_dollar (fun _ => by simp) rfl, braceNumbers_cons (by decide)]

/-- A name in braces is kept where it holds no numbered reference. -/
theorem expand_braceNumbers_braced (group : List Char → List Char)
    (cut : cutBrace rest = some (name, after)) (unnumbered : holdsNumber name = false) :
    expand group (braceNumbers ('$' :: '{' :: rest)) =
      group name ++ expand group (braceNumbers after) := by
  obtain ⟨rfl, unclosed⟩ := eq_append_of_cutBrace cut
  rw [braceNumbers_brace, braceNumbers_append_cons name (by decide) rfl,
    braceNumbers_eq_self unnumbered, expand_braced group (cutBrace_append unclosed _)]

/-- So is a brace that is never closed where no numbered reference follows. -/
theorem expand_braceNumbers_unclosed (group : List Char → List Char)
    (cut : cutBrace rest = none) (unnumbered : holdsNumber rest = false) :
    expand group (braceNumbers ('$' :: '{' :: rest)) =
      '$' :: '{' :: expand group (braceNumbers rest) := by
  rw [braceNumbers_brace, braceNumbers_eq_self unnumbered, expand_unclosed group cut]

/-- A numbered reference inside a name in braces changes the reference for some
assignment. -/
theorem exists_expand_braceNumbers_ne_of_braced (cut : cutBrace rest = some (name, after))
    (numbered : holdsNumber name = true) :
    ∃ group, expand group (braceNumbers ('$' :: '{' :: rest)) ≠
      expandNumbered group ('$' :: '{' :: rest) := by
  obtain ⟨rfl, unclosed⟩ := eq_append_of_cutBrace cut
  obtain ⟨other, behind, cut', differs⟩ :=
    exists_cutBrace_braceNumbers numbered unclosed ('}' :: braceNumbers after)
  refine ⟨fun x => if x = name then ['a'] else ['b'], ?_⟩
  rw [braceNumbers_brace, braceNumbers_append_cons name (by decide) rfl, expand_braced _ cut',
    expandNumbered_braced _ cut, if_neg differs, if_pos rfl]
  intro same
  exact absurd (List.cons.inj same).1 (by decide)

/-- One behind a brace that is never closed makes a reference of plain text. -/
theorem exists_expand_braceNumbers_ne_of_unclosed (cut : cutBrace rest = none)
    (numbered : holdsNumber rest = true) :
    ∃ group, expand group (braceNumbers ('$' :: '{' :: rest)) ≠
      expandNumbered group ('$' :: '{' :: rest) := by
  obtain ⟨other, behind, cut', -⟩ :=
    exists_cutBrace_braceNumbers numbered (not_mem_of_cutBrace cut) []
  rw [List.append_nil] at cut'
  refine ⟨fun _ => ['x'], ?_⟩
  rw [braceNumbers_brace, expand_braced _ cut', expandNumbered_unclosed _ cut]
  intro same
  exact absurd (List.cons.inj same).1 (by decide)

/-- **Bracing numbered references and expanding follows the rules of replacement
texts exactly when no numbered reference is covered by braces.** -/
theorem expand_braceNumbers_iff (replacement : List Char) :
    (∀ group, expand group (braceNumbers replacement) = expandNumbered group replacement) ↔
      coversNumber replacement = false := by
  induction replacement using expandNumbered.induct with
  | case1 => simp only [braceNumbers, expand, expandNumbered, coversNumber, implies_true]
  | case2 rest ih =>
    simp only [braceNumbers, expand, expandNumbered, coversNumber, List.cons.injEq, true_and, ih]
  | case3 rest name after cut _ ih =>
    rw [coversNumber_braced cut]
    cases numbered : holdsNumber name with
    | true =>
      obtain ⟨group, differs⟩ := exists_expand_braceNumbers_ne_of_braced cut numbered
      exact iff_of_false (fun same => differs (same group)) (by simp)
    | false =>
      simp only [expand_braceNumbers_braced _ cut numbered, expandNumbered_braced _ cut,
        List.append_cancel_left_eq, ih, Bool.false_or]
  | case4 rest cut ih =>
    rw [coversNumber_unclosed cut]
    cases numbered : holdsNumber rest with
    | true =>
      obtain ⟨group, differs⟩ := exists_expand_braceNumbers_ne_of_unclosed cut numbered
      exact iff_of_false (fun same => differs (same group)) (by simp)
    | false =>
      simp only [expand_braceNumbers_unclosed _ cut numbered, expandNumbered_unclosed _ cut,
        List.cons.injEq, true_and, ih, coversNumber_eq_false numbered]
  | case5 rest noPair noBrace _ _ noNumber nameless ih =>
    rw [coversNumber_dollar noPair noBrace]
    simp only [expand_braceNumbers_literal _ noPair noBrace noNumber nameless,
      expandNumbered.eq_4 _ rest noPair noBrace, noNumber, nameless, List.cons.injEq, true_and, ih]
  | case6 rest noPair noBrace _ _ noNumber named ih =>
    rw [coversNumber_dollar noPair noBrace, ← coversNumber_dropWhile (p := isReferenceChar) rfl,
      ← ih]
    simp only [expand_braceNumbers_name _ noPair noBrace noNumber named,
      expandNumbered_name _ noPair noBrace noNumber named, List.append_cancel_left_eq]
  | case7 rest noPair noBrace _ _ number ih =>
    rw [coversNumber_dollar noPair noBrace, ← coversNumber_dropWhile (p := Char.isDigit) rfl, ← ih]
    simp only [expand_braceNumbers_number _ number, expandNumbered_number _ number,
      List.append_cancel_left_eq]
  | case8 c rest _ _ other ih =>
    rw [coversNumber_cons other]
    simp only [braceNumbers_cons other, expand_cons _ other, List.cons.injEq, true_and, ih,
      expandNumbered.eq_5 _ c rest (fun _ same => absurd same other)
        (fun _ same => absurd same other) other]

/-- Behind an opening brace that is never closed a numbered reference is lost
with the brace, and inside a name in braces it ends that name. -/
theorem expand_braceNumbers_covered :
    let group (name : List Char) : List Char := if name = ['1'] then ['7'] else []
    (expand group (braceNumbers ['$', '{', '$', '1']) = [] ∧
      expandNumbered group ['$', '{', '$', '1'] = ['$', '{', '7']) ∧
    expand group (braceNumbers ['$', '{', 'a', '$', '1', '}']) = ['}'] ∧
      expandNumbered group ['$', '{', 'a', '$', '1', '}'] = [] := by
  decide +kernel

end Bindery.Naming

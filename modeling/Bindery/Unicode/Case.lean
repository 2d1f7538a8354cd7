/-
Case mappings of characters and of text.

* `upperCase` and `lowerCase` map text. The upper case of a character may be
  several characters, and the lower case of a capital sigma depends on whether
  it ends a word.
* `caseVariants` lists the characters that differ from a character in case
  only; `CaseTable` holds the data.
-/

import Bindery.Unicode.CaseTable
import Bindery.Unicode.Property

namespace Bindery.Unicode

/-! ### Runs of mappings -/

/-- The image of a code point under the run, if the run contains it. -/
def CaseRun.image? (run : CaseRun) (n : Nat) : Option Nat :=
  if run.first ≤ n ∧ (n - run.first) % run.stride = 0 ∧ (n - run.first) / run.stride < run.count then
    some (n + run.offset).toNat
  else
    none

/-- The code point that the run maps to `n`, if there is one. -/
def CaseRun.source? (run : CaseRun) (n : Nat) : Option Nat :=
  let source := (n - run.offset).toNat
  if run.image? source = some n then some source else none

/-! ### Upper case -/

/-- The capital of a small letter of ASCII; other characters stay. -/
def asciiUpper (c : Char) : Char :=
  if isAsciiLower c then Char.ofNat (c.toNat - 32) else c

/-- The upper case of one character. -/
def upperOf (c : Char) : List Char :=
  if isAscii c then [asciiUpper c]
  else
    match upperExpansions.lookup c.toNat with
    | some expansion => expansion.map Char.ofNat
    | none => [((upperRuns.findSome? (·.image? c.toNat)).map Char.ofNat).getD c]

/-- The upper case of a text: every character is replaced by its own upper
case. -/
def upperCase (text : List Char) : List Char :=
  text.flatMap upperOf

/-! ### Lower case -/

/-- The small letter of a capital of ASCII; other characters stay. -/
def asciiLower (c : Char) : Char :=
  if isAsciiUpper c then Char.ofNat (c.toNat + 32) else c

/-- The lower case of one character, regardless of what stands around it. The
capital I with a dot becomes a small i followed by a combining dot. -/
def lowerOf (c : Char) : List Char :=
  if isAscii c then [asciiLower c]
  else if c.toNat = 0x130 then ['i', '\u0307']
  else [((lowerRuns.findSome? (·.image? c.toNat)).map Char.ofNat).getD c]

/-- Whether the first character that is not passed over has a case. -/
def startsCased : List Char → Bool
  | [] => false
  | c :: rest => if isCaseIgnorable c then startsCased rest else isCased c

/-- The lower case of a text, where `before` is the text in front of it, last
character first. A capital sigma becomes a final sigma when a cased letter
stands before it and none after it. -/
def lowerAfter (before : List Char) : List Char → List Char
  | [] => []
  | c :: rest =>
    let lowered :=
      if c = 'Σ' then
        if startsCased before && !startsCased rest then ['ς'] else ['σ']
      else lowerOf c
    lowered ++ lowerAfter (c :: before) rest

/-- The lower case of a text. -/
def lowerCase (text : List Char) : List Char :=
  lowerAfter [] text

/-! ### Characters equal but for case -/

/-- The characters, other than the given one, that differ from it in case
only. -/
def caseVariants (c : Char) : List Char :=
  let n := c.toNat
  match foldingClasses.find? (·.contains n) with
  | some cls => (cls.filter (· != n)).map Char.ofNat
  | none =>
    match lowerRuns.findSome? (·.image? n) with
    | some m => [Char.ofNat m]
    | none =>
      match lowerRuns.findSome? (·.source? n) with
      | some m => [Char.ofNat m]
      | none => []

end Bindery.Unicode

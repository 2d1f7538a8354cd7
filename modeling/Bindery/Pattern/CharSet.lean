/-
Sets of characters, as patterns write them.

A `CharSet` is an expression over ranges and named properties, and
`CharSet.mem` decides membership. `CharSet.folded` closes a set under
differences of case. `Property.ofQuery?` finds the property that a query names;
`CharSet.weight` estimates how large a matcher for the set becomes.
-/

import Bindery.Unicode.Case
import Bindery.Unicode.ScriptTable

namespace Bindery.Pattern

open Bindery.Unicode

/-! ### Properties -/

/-- A property of characters that a pattern can ask for by name. -/
inductive Property where
  | any
  | assigned
  | ascii
  | categories (members : List Category)
  | script (script : Script)
  | alphabetic
  | uppercase
  | lowercase
  | space
  | decimal
  | word
  | cased
  | caseIgnorable
  | hexDigit
  | asciiHexDigit
  | joinControl
  | noncharacter

/-- Whether a character has a property. -/
def Property.holds : Property → Char → Bool
  | any, _ => true
  | assigned, c => Category.of c != .cn
  | ascii, c => isAscii c
  | categories members, c => members.contains (Category.of c)
  | script s, c => Script.of c == s
  | alphabetic, c => isAlphabetic c
  | uppercase, c => isUpper c
  | lowercase, c => isLower c
  | space, c => isSpace c
  | decimal, c => isDecimal c
  | word, c => isWord c
  | cased, c => isCased c
  | caseIgnorable, c => isCaseIgnorable c
  | hexDigit, c =>
    inRanges [(0x30, 0x39), (0x41, 0x46), (0x61, 0x66), (0xFF10, 0xFF19), (0xFF21, 0xFF26),
      (0xFF41, 0xFF46)] c.toNat
  | asciiHexDigit, c => inRanges [(0x30, 0x39), (0x41, 0x46), (0x61, 0x66)] c.toNat
  | joinControl, c => inRanges [(0x200C, 0x200D)] c.toNat
  | noncharacter, c => inRanges [(0xFDD0, 0xFDEF)] c.toNat || c.toNat % 0x10000 ≥ 0xFFFE

/-- An estimate of the number of states that a matcher of bytes needs for a
property. -/
def Property.weight : Property → Nat
  | any => 30
  | ascii | hexDigit | asciiHexDigit | joinControl => 1
  | decimal => 162
  | space => 21
  | categories members => min (400 * members.length) 1500
  | script _ => 50
  | assigned | alphabetic | uppercase | lowercase | word | cased | caseIgnorable
  | noncharacter => 1570

/-- A name without blanks, hyphens, underscores, characters outside ASCII and
differences of case. A leading `is` is dropped as well. -/
def looseName (name : List Char) : String :=
  let plain := (name.filter fun c => isAscii c && c != ' ' && c != '_' && c != '-').map asciiLower
  let startsWithIs := (name.take 2).map asciiLower == ['i', 's']
  let kept := if startsWithIs then plain.drop 2 else plain
  if startsWithIs && kept == ['c'] then "isc" else String.ofList kept

/-- The groups of categories, with the names by which they are asked for. -/
def categoryGroups : List (List String × (Category → Bool)) :=
  [(["l", "letter"], Category.isLetter),
   (["lc", "casedletter"], Category.isCasedLetter),
   (["m", "mark", "combiningmark"], Category.isMark),
   (["n", "number"], Category.isNumber),
   (["p", "punctuation", "punct"], Category.isPunctuation),
   (["s", "symbol"], Category.isSymbol),
   (["z", "separator"], Category.isSeparator),
   (["c", "other"], Category.isOther),
   (["digit"], (· == .nd)),
   (["cntrl"], (· == .cc))]

/-- The property that holds of a category or a group of categories. There are
no surrogates among the characters, and no property of that name. -/
def Property.ofCategoryName? (name : String) : Option Property :=
  if name = "any" then some .any
  else if name = "assigned" then some .assigned
  else if name = "ascii" then some .ascii
  else
    match categoryGroups.find? (·.1.contains name) with
    | some group => some (.categories ((Category.names.map Prod.fst).filter group.2))
    | none =>
      match Category.names.find? fun entry =>
          String.ofList (entry.2.1.toList.map asciiLower) == name || entry.2.2 == name with
      | some (category, _) => if category = .cs then none else some (.categories [category])
      | none => none

/-- The properties with a yes or no answer, with the names by which they are
asked for. -/
def binaryProperties : List (List String × Property) :=
  [(["alphabetic", "alpha"], .alphabetic),
   (["uppercase", "upper"], .uppercase),
   (["lowercase", "lower"], .lowercase),
   (["whitespace", "wspace", "space"], .space),
   (["cased"], .cased),
   (["caseignorable", "ci"], .caseIgnorable),
   (["hexdigit", "hex"], .hexDigit),
   (["asciihexdigit", "ahex"], .asciiHexDigit),
   (["joincontrol", "joinc"], .joinControl),
   (["noncharactercodepoint", "nchar"], .noncharacter)]

/-- A query for a property: a name alone, or the name of a property and one of
its values. -/
structure PropertyQuery where
  name : List Char
  value : Option (List Char)

/-- The property that a query asks for, if there is one. A name alone is the
name of a yes or no property, of a category or of a script, in this order. -/
def Property.ofQuery? (query : PropertyQuery) : Option Property :=
  let name := looseName query.name
  match query.value with
  | none =>
    match binaryProperties.find? (·.1.contains name) with
    | some entry => some entry.2
    | none =>
      match Property.ofCategoryName? name with
      | some property => some property
      | none => (Script.ofName? name).map .script
  | some value =>
    let value := looseName value
    if name = "generalcategory" || name = "gc" then Property.ofCategoryName? value
    else if name = "script" || name = "sc" then (Script.ofName? value).map .script
    else none

/-! ### Sets -/

/-- A set of characters. -/
inductive CharSet where
  | none
  | range (first last : Char)
  | property (property : Property)
  | union (left right : CharSet)
  | inter (left right : CharSet)
  | diff (left right : CharSet)
  | symmDiff (left right : CharSet)
  | compl (set : CharSet)
  /-- The characters that differ from a member in case at most. -/
  | folded (set : CharSet)
  /-- Like `folded`, for the letters of ASCII only. -/
  | asciiFolded (set : CharSet)

namespace CharSet

/-- The set of one character. -/
def single (c : Char) : CharSet :=
  range c c

/-- The union of some sets. -/
def unions (sets : List CharSet) : CharSet :=
  match sets with
  | [] => none
  | set :: rest => rest.foldl union set

/-- The letter of ASCII that differs from the given one in case. -/
def asciiVariants (c : Char) : List Char :=
  if isAsciiUpper c then [asciiLower c] else if isAsciiLower c then [asciiUpper c] else []

/-- Whether a character is a member of a set. -/
def mem : CharSet → Char → Bool
  | none, _ => false
  | range first last, c => inSpan first last c
  | property p, c => p.holds c
  | union left right, c => left.mem c || right.mem c
  | inter left right, c => left.mem c && right.mem c
  | diff left right, c => left.mem c && !right.mem c
  | symmDiff left right, c => left.mem c != right.mem c
  | compl set, c => !set.mem c
  | folded set, c => set.mem c || (caseVariants c).any set.mem
  | asciiFolded set, c => set.mem c || (asciiVariants c).any set.mem

/-- An estimate of the number of states that a matcher of bytes needs for a
set. -/
def weight : CharSet → Nat
  | none => 1
  | range _ last => last.utf8Size
  | property p => p.weight
  | union left right | inter left right | diff left right | symmDiff left right =>
    left.weight + right.weight
  | compl set => set.weight + 30
  | folded set | asciiFolded set => 2 * set.weight

end CharSet

end Bindery.Pattern

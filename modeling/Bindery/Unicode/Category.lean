/-
The general categories of characters.

* `Category` has one constructor per category, named like its abbreviation;
* `Category.ofAbbreviation?` reads the two-letter abbreviation.
-/

namespace Bindery.Unicode

/-- The general category of a code point. -/
inductive Category where
  | lu | ll | lt | lm | lo
  | mn | mc | me
  | nd | nl | no
  | pc | pd | ps | pe | pi | pf | po
  | sm | sc | sk | so
  | zs | zl | zp
  | cc | cf | co | cn | cs
  deriving DecidableEq, Repr

namespace Category

/-- Every category with its two-letter abbreviation and its full name, the
latter in lower case and without blanks. -/
def names : List (Category × String × String) :=
  [(lu, "Lu", "uppercaseletter"), (ll, "Ll", "lowercaseletter"), (lt, "Lt", "titlecaseletter"),
   (lm, "Lm", "modifierletter"), (lo, "Lo", "otherletter"),
   (mn, "Mn", "nonspacingmark"), (mc, "Mc", "spacingmark"), (me, "Me", "enclosingmark"),
   (nd, "Nd", "decimalnumber"), (nl, "Nl", "letternumber"), (no, "No", "othernumber"),
   (pc, "Pc", "connectorpunctuation"), (pd, "Pd", "dashpunctuation"),
   (ps, "Ps", "openpunctuation"), (pe, "Pe", "closepunctuation"),
   (pi, "Pi", "initialpunctuation"), (pf, "Pf", "finalpunctuation"),
   (po, "Po", "otherpunctuation"),
   (sm, "Sm", "mathsymbol"), (sc, "Sc", "currencysymbol"), (sk, "Sk", "modifiersymbol"),
   (so, "So", "othersymbol"),
   (zs, "Zs", "spaceseparator"), (zl, "Zl", "lineseparator"), (zp, "Zp", "paragraphseparator"),
   (cc, "Cc", "control"), (cf, "Cf", "format"), (co, "Co", "privateuse"),
   (cn, "Cn", "unassigned"), (cs, "Cs", "surrogate")]

/-- Reads the two-letter abbreviation of a category. -/
def ofAbbreviation? (s : String) : Option Category :=
  (names.find? fun entry => entry.2.1 == s).map Prod.fst

/-- The letters: `L`. -/
def isLetter : Category → Bool
  | lu | ll | lt | lm | lo => true
  | _ => false

/-- The cased letters: `LC`. -/
def isCasedLetter : Category → Bool
  | lu | ll | lt => true
  | _ => false

/-- The combining marks: `M`. -/
def isMark : Category → Bool
  | mn | mc | me => true
  | _ => false

/-- The numbers: `N`. -/
def isNumber : Category → Bool
  | nd | nl | no => true
  | _ => false

/-- The punctuation: `P`. -/
def isPunctuation : Category → Bool
  | pc | pd | ps | pe | pi | pf | po => true
  | _ => false

/-- The symbols: `S`. -/
def isSymbol : Category → Bool
  | sm | sc | sk | so => true
  | _ => false

/-- The separators: `Z`. -/
def isSeparator : Category → Bool
  | zs | zl | zp => true
  | _ => false

/-- Everything else: `C`. -/
def isOther : Category → Bool
  | cc | cf | co | cn | cs => true
  | _ => false

end Category

end Bindery.Unicode

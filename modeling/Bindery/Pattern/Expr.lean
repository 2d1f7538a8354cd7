/-
Patterns as they are written.

An `Expr` keeps what a pattern says, one constructor for each form, before its
flags are applied. `ClassExpr` is what stands between square brackets.
`Expr.nesting` measures how deeply the forms nest.
-/

import Bindery.Pattern.CharSet

namespace Bindery.Pattern

/-- A character of a pattern. `fixedHex` tells that it was written with exactly
two hexadecimal digits, which in the absence of Unicode means a byte. -/
structure Literal where
  char : Char
  fixedHex : Bool := false

/-- The classes with an escape of their own: digits, blanks and characters of
words. -/
inductive ShortClass where
  | digit
  | space
  | word

/-- The classes of ASCII that are written by name. -/
inductive AsciiClass where
  | alnum | alpha | ascii | blank | cntrl | digit | graph | lower | print | punct | space
  | upper | word | xdigit

/-- Reads the name of a class of ASCII. -/
def AsciiClass.ofName? : String → Option AsciiClass
  | "alnum" => some alnum
  | "alpha" => some alpha
  | "ascii" => some ascii
  | "blank" => some blank
  | "cntrl" => some cntrl
  | "digit" => some digit
  | "graph" => some graph
  | "lower" => some lower
  | "print" => some print
  | "punct" => some punct
  | "space" => some space
  | "upper" => some upper
  | "word" => some word
  | "xdigit" => some xdigit
  | _ => none

/-- An operator between sets in square brackets. -/
inductive SetOperator where
  | intersection
  | difference
  | symmetricDifference

/-- What stands between square brackets. -/
inductive ClassExpr where
  | literal (literal : Literal)
  | range (first last : Literal)
  | ascii (cls : AsciiClass) (negated : Bool)
  | short (cls : ShortClass) (negated : Bool)
  | property (query : PropertyQuery) (negated : Bool)
  | bracket (negated : Bool) (body : ClassExpr)
  | union (items : List ClassExpr)
  | binary (operator : SetOperator) (left right : ClassExpr)

/-- A condition on a position in the text. -/
inductive Assertion where
  | lineStart
  | lineEnd
  | textStart
  | textEnd
  | wordBoundary
  | notWordBoundary
  | wordStart
  | wordEnd
  | wordStartHalf
  | wordEndHalf

/-- The flags of a pattern. -/
inductive Flag where
  | caseInsensitive
  | multiLine
  | dotMatchesNewline
  | swapGreed
  | unicode
  | carriageReturn
  | verbose
  deriving DecidableEq

/-- A change of flags: each flag that is named is set or cleared. -/
abbrev FlagChange := List (Flag × Bool)

/-- The kinds of groups. -/
inductive GroupKind where
  | capture (index : Nat)
  | plain (change : FlagChange)

/-- A pattern. -/
inductive Expr where
  | empty
  | setFlags (change : FlagChange)
  | literal (literal : Literal)
  | dot
  | assertion (kind : Assertion)
  | short (cls : ShortClass) (negated : Bool)
  | property (query : PropertyQuery) (negated : Bool)
  | bracket (negated : Bool) (body : ClassExpr)
  | repetition (body : Expr) (least : Nat) (most : Option Nat) (greedy : Bool)
  | group (kind : GroupKind) (body : Expr)
  | concat (parts : List Expr)
  | alternation (branches : List Expr)

/-! ### Nesting -/

mutual

/-- How deeply brackets, unions and operators nest. -/
def ClassExpr.nesting : ClassExpr → Nat
  | .literal _ | .range _ _ | .ascii _ _ | .short _ _ | .property _ _ => 0
  | .bracket _ body => body.nesting + 1
  | .union [] => 0
  | .union (item :: items) => ClassExpr.nestingAll (item :: items) + 1
  | .binary _ left right => max left.nesting right.nesting + 1

/-- The deepest nesting among some items. -/
def ClassExpr.nestingAll : List ClassExpr → Nat
  | [] => 0
  | item :: items => max item.nesting (ClassExpr.nestingAll items)

end

mutual

/-- How deeply the forms of a pattern nest; single characters, classes with an
escape and assertions do not count. -/
def Expr.nesting : Expr → Nat
  | .empty | .setFlags _ | .literal _ | .dot | .assertion _ | .short _ _ | .property _ _ => 0
  | .bracket _ body => body.nesting + 1
  | .repetition body _ _ _ => body.nesting + 1
  | .group _ body => body.nesting + 1
  | .concat parts => Expr.nestingAll parts + 1
  | .alternation branches => Expr.nestingAll branches + 1

/-- The deepest nesting among some patterns. -/
def Expr.nestingAll : List Expr → Nat
  | [] => 0
  | part :: parts => max part.nesting (Expr.nestingAll parts)

end

/-- Several patterns one after the other; one alone stands for itself. -/
def Expr.sequence : List Expr → Expr
  | [] => .empty
  | [part] => part
  | parts => .concat parts

/-- Several patterns to choose from; one alone stands for itself. -/
def Expr.choice : List Expr → Expr
  | [] => .empty
  | [branch] => branch
  | branches => .alternation branches

end Bindery.Pattern

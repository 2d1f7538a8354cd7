/-
Patterns with their flags applied.

A `Node` says what a pattern matches: one character of a set, a condition on a
position, a sequence, a choice in order of preference, a repetition, or a
captured group. `Expr.node?` applies the flags of a pattern and answers `none`
for forms without a meaning, such as an unknown property or, where Unicode is
switched off, a set that leaves ASCII.
-/

import Bindery.Pattern.Parser

namespace Bindery.Pattern

open Bindery.Unicode

/-! ### Conditions on positions -/

/-- A condition on a position, which reads the characters beside it. -/
inductive Look where
  | textStart
  | textEnd
  | lineStart
  | lineEnd
  /-- The start of a line, where a carriage return ends a line as well. -/
  | lineStartReturn
  /-- The end of a line, where a carriage return ends a line as well. -/
  | lineEndReturn
  | boundary (ascii : Bool)
  | notBoundary (ascii : Bool)
  | wordStart (ascii : Bool)
  | wordEnd (ascii : Bool)
  | wordStartHalf (ascii : Bool)
  | wordEndHalf (ascii : Bool)

/-- Whether there is a character, and it belongs to words. -/
def wordBeside (ascii : Bool) : Option Char → Bool
  | none => false
  | some c => if ascii then isAscii c && isWord c else isWord c

/-- Whether a condition holds between two characters; none stands at the ends
of the text. -/
def Look.holds (before after : Option Char) : Look → Bool
  | textStart => before.isNone
  | textEnd => after.isNone
  | lineStart => before.isNone || before == some '\n'
  | lineEnd => after.isNone || after == some '\n'
  | lineStartReturn =>
    before.isNone || before == some '\n' || (before == some '\r' && after != some '\n')
  | lineEndReturn =>
    after.isNone || after == some '\r' || (after == some '\n' && before != some '\r')
  | boundary ascii => wordBeside ascii before != wordBeside ascii after
  | notBoundary ascii => wordBeside ascii before == wordBeside ascii after
  | wordStart ascii => !wordBeside ascii before && wordBeside ascii after
  | wordEnd ascii => wordBeside ascii before && !wordBeside ascii after
  | wordStartHalf ascii => !wordBeside ascii before
  | wordEndHalf ascii => !wordBeside ascii after

/-! ### Nodes -/

/-- What a pattern matches. -/
inductive Node where
  | empty
  | chars (set : CharSet)
  | look (condition : Look)
  | seq (first second : Node)
  /-- The first alternative is preferred. -/
  | alt (first second : Node)
  /-- Greedy repetitions prefer more rounds, others fewer. -/
  | repetition (body : Node) (least : Nat) (most : Option Nat) (greedy : Bool)
  | capture (index : Nat) (body : Node)

namespace Node

/-- Whether a node may match the empty text. -/
def canBeEmpty : Node → Bool
  | empty | look _ => true
  | chars _ => false
  | seq first second => first.canBeEmpty && second.canBeEmpty
  | alt first second => first.canBeEmpty || second.canBeEmpty
  | repetition body least _ _ => least = 0 || body.canBeEmpty
  | capture _ body => body.canBeEmpty

/-- Whether a node matches the empty text only. -/
def onlyEmpty : Node → Bool
  | empty | look _ => true
  | chars _ => false
  | seq first second => first.onlyEmpty && second.onlyEmpty
  | alt first second => first.onlyEmpty && second.onlyEmpty
  | repetition body _ most _ => most = some 0 || body.onlyEmpty
  | capture _ body => body.onlyEmpty

/-- The bounds of a repetition. More than one round of the empty text is the
same as one round. -/
def rounds (body : Node) (least : Nat) (most : Option Nat) : Nat × Option Nat :=
  if body.onlyEmpty then (min least 1, some (min (most.getD 1) 1)) else (least, most)

/-- An estimate of the number of states that a matcher needs for a node. -/
def weight : Node → Nat
  | empty => 1
  | look _ => 1
  | chars set => set.weight
  | seq first second => first.weight + second.weight
  | alt first second => first.weight + second.weight + 1
  | capture _ body => body.weight + 2
  | repetition body least most _ =>
    match rounds body least most with
    | (least, none) => max least 1 * body.weight + 2
    | (least, some most) => most * body.weight + (most - least) + 1

end Node

/-! ### Flags -/

/-- The flags in force. -/
structure Flags where
  caseInsensitive : Bool := false
  multiLine : Bool := false
  dotMatchesNewline : Bool := false
  swapGreed : Bool := false
  unicode : Bool := true
  carriageReturn : Bool := false

/-- The flags after a change. -/
def Flags.change (flags : Flags) (change : FlagChange) : Flags :=
  { caseInsensitive := change.apply .caseInsensitive flags.caseInsensitive
    multiLine := change.apply .multiLine flags.multiLine
    dotMatchesNewline := change.apply .dotMatchesNewline flags.dotMatchesNewline
    swapGreed := change.apply .swapGreed flags.swapGreed
    unicode := change.apply .unicode flags.unicode
    carriageReturn := change.apply .carriageReturn flags.carriageReturn }

/-- The set closed under differences of case, where case does not matter. -/
def Flags.fold (flags : Flags) (set : CharSet) : CharSet :=
  if flags.caseInsensitive then
    if flags.unicode then .folded set else .asciiFolded set
  else set

/-- The complement of a set. Without Unicode it would contain bytes that are no
characters, and is refused. -/
def Flags.negate? (flags : Flags) (negated : Bool) (set : CharSet) : Option CharSet :=
  if negated then
    if flags.unicode then some (.compl set) else none
  else some set

/-! ### Sets -/

/-- Ranges of ASCII. -/
def asciiRanges (ranges : List (Char × Char)) : CharSet :=
  CharSet.unions (ranges.map fun r => .range r.1 r.2)

/-- The members of a class of ASCII. -/
def AsciiClass.set : AsciiClass → CharSet
  | alnum => asciiRanges [('0', '9'), ('A', 'Z'), ('a', 'z')]
  | alpha => asciiRanges [('A', 'Z'), ('a', 'z')]
  | ascii => asciiRanges [('\x00', '\x7f')]
  | blank => asciiRanges [('\t', '\t'), (' ', ' ')]
  | cntrl => asciiRanges [('\x00', '\x1f'), ('\x7f', '\x7f')]
  | digit => asciiRanges [('0', '9')]
  | graph => asciiRanges [('!', '~')]
  | lower => asciiRanges [('a', 'z')]
  | print => asciiRanges [(' ', '~')]
  | punct => asciiRanges [('!', '/'), (':', '@'), ('[', '\x60'), ('\x7b', '~')]
  | space => asciiRanges [('\t', '\r'), (' ', ' ')]
  | upper => asciiRanges [('A', 'Z')]
  | word => asciiRanges [('0', '9'), ('A', 'Z'), ('_', '_'), ('a', 'z')]
  | xdigit => asciiRanges [('0', '9'), ('A', 'F'), ('a', 'f')]

/-- The members of a class with an escape of its own. -/
def ShortClass.set (unicode : Bool) : ShortClass → CharSet
  | digit => if unicode then .property .decimal else AsciiClass.digit.set
  | space => if unicode then .property .space else AsciiClass.space.set
  | word => if unicode then .property .word else AsciiClass.word.set

/-- A class with an escape of its own, possibly negated. -/
def Flags.short? (flags : Flags) (cls : ShortClass) (negated : Bool) : Option CharSet :=
  flags.negate? negated (cls.set flags.unicode)

/-- The characters with a property, possibly negated. Properties need
Unicode. -/
def Flags.property? (flags : Flags) (query : PropertyQuery) (negated : Bool) :
    Option CharSet := do
  if flags.unicode then
    let property ← Property.ofQuery? query
    flags.negate? negated (flags.fold (.property property))
  else none

/-- The character of a literal. Without Unicode a byte beyond ASCII is no
character, and is refused. -/
def Flags.literal? (flags : Flags) (literal : Literal) : Option Char :=
  if !flags.unicode && literal.fixedHex && !isAscii literal.char then none
  else some literal.char

/-- The character of a literal in brackets, where without Unicode only ASCII
may stand. -/
def Flags.classLiteral? (flags : Flags) (literal : Literal) : Option Char :=
  if !flags.unicode && !isAscii literal.char then none else some literal.char

/-- The set that an operator makes of two sets. -/
def SetOperator.apply : SetOperator → CharSet → CharSet → CharSet
  | intersection => .inter
  | difference => .diff
  | symmetricDifference => .symmDiff

mutual

/-- The set of what stands between brackets. Differences of case are resolved
in every bracket before it is negated, and on both sides of an operator. -/
def ClassExpr.set? (flags : Flags) : ClassExpr → Option CharSet
  | .literal l => (flags.classLiteral? l).map CharSet.single
  | .range first last => do
    return .range (← flags.classLiteral? first) (← flags.classLiteral? last)
  | .ascii cls negated => flags.negate? negated (flags.fold cls.set)
  | .short cls negated => flags.short? cls negated
  | .property query negated => flags.property? query negated
  | .bracket negated body => do flags.negate? negated (flags.fold (← body.set? flags))
  | .union items => (ClassExpr.sets? flags items).map CharSet.unions
  | .binary operator left right => do
    return operator.apply (flags.fold (← left.set? flags)) (flags.fold (← right.set? flags))

/-- The sets of some items. -/
def ClassExpr.sets? (flags : Flags) : List ClassExpr → Option (List CharSet)
  | [] => some []
  | item :: items => do return (← item.set? flags) :: (← ClassExpr.sets? flags items)

end

/-! ### Expressions -/

/-- A literal: its character, or the characters equal to it but for case. -/
def Flags.literalSet (flags : Flags) (c : Char) : CharSet :=
  if flags.unicode || isAscii c then flags.fold (.single c) else .single c

/-- Any character; line ends are left out unless the flags ask for them.
Without Unicode single bytes would match, and the dot is refused. -/
def Flags.dot? (flags : Flags) : Option CharSet :=
  if !flags.unicode then none
  else if flags.dotMatchesNewline then some (.compl .none)
  else if flags.carriageReturn then some (.compl (.union (.single '\r') (.single '\n')))
  else some (.compl (.single '\n'))

/-- The condition of an assertion. -/
def Flags.look (flags : Flags) : Assertion → Look
  | .lineStart =>
    if flags.multiLine then (if flags.carriageReturn then .lineStartReturn else .lineStart)
    else .textStart
  | .lineEnd =>
    if flags.multiLine then (if flags.carriageReturn then .lineEndReturn else .lineEnd)
    else .textEnd
  | .textStart => .textStart
  | .textEnd => .textEnd
  | .wordBoundary => .boundary !flags.unicode
  | .notWordBoundary => .notBoundary !flags.unicode
  | .wordStart => .wordStart !flags.unicode
  | .wordEnd => .wordEnd !flags.unicode
  | .wordStartHalf => .wordStartHalf !flags.unicode
  | .wordEndHalf => .wordEndHalf !flags.unicode

mutual

/-- What an expression matches under the given flags, and the flags in force
behind it. A group keeps the changes of flags within it to itself. -/
def Expr.node? : Expr → Flags → Option (Node × Flags)
  | .empty, flags => some (.empty, flags)
  | .setFlags change, flags => some (.empty, flags.change change)
  | .literal l, flags => do return (.chars (flags.literalSet (← flags.literal? l)), flags)
  | .dot, flags => do return (.chars (← flags.dot?), flags)
  | .assertion kind, flags => some (.look (flags.look kind), flags)
  | .short cls negated, flags => do return (.chars (← flags.short? cls negated), flags)
  | .property query negated, flags => do return (.chars (← flags.property? query negated), flags)
  | .bracket negated body, flags => do
    let set ← body.set? flags
    return (.chars (← flags.negate? negated (flags.fold set)), flags)
  | .repetition body least most greedy, flags => do
    let (node, flags) ← body.node? flags
    return (.repetition node least most (greedy != flags.swapGreed), flags)
  | .group (.capture index) body, flags => do
    let (node, _) ← body.node? flags
    return (.capture index node, flags)
  | .group (.plain change) body, flags => do
    let (node, _) ← body.node? (flags.change change)
    return (node, flags)
  | .concat parts, flags => Expr.sequenceNode? parts flags
  | .alternation branches, flags => Expr.choiceNode? branches flags

/-- What some expressions match one after the other. -/
def Expr.sequenceNode? : List Expr → Flags → Option (Node × Flags)
  | [], flags => some (.empty, flags)
  | part :: parts, flags => do
    let (first, flags) ← part.node? flags
    let (second, flags) ← Expr.sequenceNode? parts flags
    return (.seq first second, flags)

/-- What one of some expressions matches; changes of flags in a branch hold in
the branches behind it as well. -/
def Expr.choiceNode? : List Expr → Flags → Option (Node × Flags)
  | [], flags => some (.empty, flags)
  | [branch], flags => branch.node? flags
  | branch :: next :: branches, flags => do
    let (first, flags) ← branch.node? flags
    let (second, flags) ← Expr.choiceNode? (next :: branches) flags
    return (.alt first second, flags)

end

end Bindery.Pattern

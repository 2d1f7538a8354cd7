/-
Reading patterns.

`Expr.parse?` reads a whole pattern and answers `none` when it is not well
formed. The reader works on the list of characters that are left; each of its
parts returns what it read together with the rest. Outside the brackets a
`Reading` holds the groups that are open, and inside them a list of brackets
does. In verbose patterns blanks and comments are passed over between the
characters.
-/

import Bindery.Pattern.Expr

namespace Bindery.Pattern

open Bindery.Unicode

/-! ### Blanks and numbers -/

/-- Drops blanks and comments; `inComment` tells that the text starts within a
comment. -/
def dropComments (inComment : Bool) : List Char → List Char
  | [] => []
  | c :: rest =>
    if inComment then dropComments (c != '\n') rest
    else if isSpace c then dropComments false rest
    else if c = '#' then dropComments true rest
    else c :: rest

/-- Drops what a verbose pattern passes over. -/
def skip (verbose : Bool) (text : List Char) : List Char :=
  if verbose then dropComments false text else text

/-- The digits at the start of a text, with what may be passed over between
them. -/
def takeDigits (verbose : Bool) : Nat → List Char → List Char × List Char
  | 0, text => ([], text)
  | fuel + 1, text =>
    match text with
    | c :: rest =>
      if c.isDigit then
        let (digits, rest) := takeDigits verbose fuel (skip verbose rest)
        (c :: digits, rest)
      else ([], text)
    | [] => ([], [])

/-- The value of decimal digits. -/
def decimalValue (digits : List Char) : Nat :=
  digits.foldl (fun n c => n * 10 + (c.toNat - '0'.toNat)) 0

/-- The counts of repetitions are below this number, which needs 33 bits. -/
def countLimit : Nat := 4294967296

/-- A count of repetitions, with blanks around it. -/
def parseCount (verbose : Bool) (text : List Char) : Option (Nat × List Char) :=
  let text := text.dropWhile isSpace
  match takeDigits verbose text.length text with
  | ([], _) => none
  | (digits, rest) =>
    let value := decimalValue digits
    if value < countLimit then some (value, skip verbose (rest.dropWhile isSpace)) else none

/-! ### Escapes -/

/-- What an escape or a single character stands for. -/
inductive Atom where
  | literal (literal : Literal)
  | assertion (kind : Assertion)
  | short (cls : ShortClass) (negated : Bool)
  | property (query : PropertyQuery) (negated : Bool)

/-- The value of a hexadecimal digit. -/
def hexDigit? (c : Char) : Option Nat :=
  if inSpan '0' '9' c then some (c.toNat - '0'.toNat)
  else if inSpan 'a' 'f' c then some (c.toNat - 'a'.toNat + 10)
  else if inSpan 'A' 'F' c then some (c.toNat - 'A'.toNat + 10)
  else none

/-- The character with the given number, if there is one. -/
def scalar? (n : Nat) : Option Char :=
  if n < 0xD800 ∨ 0xDFFF < n ∧ n < 0x110000 then some (Char.ofNat n) else none

/-- Exactly `count` hexadecimal digits. -/
def parseHexDigits (verbose : Bool) : Nat → Nat → List Char → Option (Nat × List Char)
  | 0, value, text => some (value, text)
  | count + 1, value, text =>
    match text with
    | c :: rest =>
      match hexDigit? c with
      | some digit => parseHexDigits verbose count (value * 16 + digit) (skip verbose rest)
      | none => none
    | [] => none

/-- Hexadecimal digits up to a closing brace, of which `seen` tells that there
were some before. -/
def parseHexBraced (verbose : Bool) :
    Nat → Bool → Nat → List Char → Option (Nat × List Char)
  | 0, _, _, _ => none
  | fuel + 1, seen, value, text =>
    match text with
    | '}' :: rest => if seen then some (value, rest) else none
    | c :: rest =>
      match hexDigit? c with
      | some digit => parseHexBraced verbose fuel true (value * 16 + digit) (skip verbose rest)
      | none => none
    | [] => none

/-- A character by its number: `count` digits, or any number of them in
braces. -/
def parseHex (verbose : Bool) (count : Nat) (text : List Char) : Option (Literal × List Char) :=
  match skip verbose text with
  | '{' :: rest => do
    let rest := skip verbose rest
    let (value, rest) ← parseHexBraced verbose (rest.length + 1) false 0 rest
    let c ← scalar? value
    return (⟨c, false⟩, skip verbose rest)
  | rest => do
    let (value, rest) ← parseHexDigits verbose count 0 rest
    let c ← scalar? value
    return (⟨c, count = 2⟩, rest)

/-- The text up to a closing brace, without what is passed over. -/
def takeBraced (verbose : Bool) : Nat → List Char → Option (List Char × List Char)
  | 0, _ => none
  | fuel + 1, text =>
    match text with
    | '}' :: rest => some ([], rest)
    | c :: rest => (takeBraced verbose fuel (skip verbose rest)).map fun (name, rest) =>
      (c :: name, rest)
    | [] => none

/-- Cuts a text at the first occurrence of a separator. -/
def cutOnce (sep : List Char) : List Char → Option (List Char × List Char)
  | [] => if sep.isEmpty then some ([], []) else none
  | c :: rest =>
    if sep.isPrefixOf (c :: rest) then some ([], (c :: rest).drop sep.length)
    else (cutOnce sep rest).map fun (before, after) => (c :: before, after)

/-- A query for a property as it is written in braces; the second part tells
that the query is for inequality. -/
def readQuery (text : List Char) : PropertyQuery × Bool :=
  match cutOnce ['!', '='] text with
  | some (name, value) => (⟨name, some value⟩, true)
  | none =>
    match cutOnce [':'] text with
    | some (name, value) => (⟨name, some value⟩, false)
    | none =>
      match cutOnce ['='] text with
      | some (name, value) => (⟨name, some value⟩, false)
      | none => (⟨text, none⟩, false)

/-- A property, by one letter or by a query in braces. -/
def parseProperty (verbose negated : Bool) (text : List Char) : Option (Atom × List Char) :=
  match skip verbose text with
  | [] => none
  | '{' :: rest => do
    let rest := skip verbose rest
    let (content, rest) ← takeBraced verbose (rest.length + 1) rest
    let (query, unequal) := readQuery content
    return (.property query (negated != unequal), rest)
  | '\\' :: _ => none
  | c :: rest => some (.property ⟨[c], none⟩ negated, skip verbose rest)

/-- The letters and hyphens at the start of a text, with what may be passed
over between them. -/
def takeBoundaryName (verbose : Bool) : Nat → List Char → List Char × List Char
  | 0, text => ([], text)
  | fuel + 1, text =>
    match text with
    | c :: rest =>
      if isAsciiUpper c || isAsciiLower c || c = '-' then
        let (name, rest) := takeBoundaryName verbose fuel (skip verbose rest)
        (c :: name, rest)
      else ([], text)
    | [] => ([], [])

/-- A word boundary, possibly of a special kind named in braces. Braces that do
not start with a name are left for a repetition to read. -/
def parseBoundary (verbose : Bool) (text : List Char) : Option (Atom × List Char) :=
  match text with
  | '{' :: rest =>
    match skip verbose rest with
    | [] => none
    | inner =>
      match takeBoundaryName verbose inner.length inner with
      | ([], _) => some (.assertion .wordBoundary, text)
      | (name, '}' :: rest) =>
        match String.ofList name with
        | "start" => some (.assertion .wordStart, rest)
        | "end" => some (.assertion .wordEnd, rest)
        | "start-half" => some (.assertion .wordStartHalf, rest)
        | "end-half" => some (.assertion .wordEndHalf, rest)
        | _ => none
      | _ => none
  | _ => some (.assertion .wordBoundary, text)

/-- What follows a backslash. Letters and digits are reserved: those without a
meaning are refused, and so are characters outside ASCII. -/
def parseEscape (verbose : Bool) : List Char → Option (Atom × List Char)
  | [] => none
  | 'x' :: rest => (parseHex verbose 2 rest).map fun (l, rest) => (.literal l, rest)
  | 'u' :: rest => (parseHex verbose 4 rest).map fun (l, rest) => (.literal l, rest)
  | 'U' :: rest => (parseHex verbose 8 rest).map fun (l, rest) => (.literal l, rest)
  | 'p' :: rest => parseProperty verbose false rest
  | 'P' :: rest => parseProperty verbose true rest
  | 'd' :: rest => some (.short .digit false, rest)
  | 'D' :: rest => some (.short .digit true, rest)
  | 's' :: rest => some (.short .space false, rest)
  | 'S' :: rest => some (.short .space true, rest)
  | 'w' :: rest => some (.short .word false, rest)
  | 'W' :: rest => some (.short .word true, rest)
  | 'a' :: rest => some (.literal ⟨'\x07', false⟩, rest)
  | 'f' :: rest => some (.literal ⟨'\x0c', false⟩, rest)
  | 't' :: rest => some (.literal ⟨'\t', false⟩, rest)
  | 'n' :: rest => some (.literal ⟨'\n', false⟩, rest)
  | 'r' :: rest => some (.literal ⟨'\r', false⟩, rest)
  | 'v' :: rest => some (.literal ⟨'\x0b', false⟩, rest)
  | 'A' :: rest => some (.assertion .textStart, rest)
  | 'z' :: rest => some (.assertion .textEnd, rest)
  | 'b' :: rest => parseBoundary verbose rest
  | 'B' :: rest => some (.assertion .notWordBoundary, rest)
  | '<' :: rest => some (.assertion .wordStart, rest)
  | '>' :: rest => some (.assertion .wordEnd, rest)
  | c :: rest => if isAscii c && !isAlphanumeric c then some (.literal ⟨c, false⟩, rest) else none

/-! ### Brackets -/

/-- A bracket that is open: whether it is negated, the items read since the
last operator (last one first) and what stands before that operator. -/
structure OpenBracket where
  negated : Bool
  items : List ClassExpr
  pending : Option (SetOperator × ClassExpr)

/-- The set that an open bracket stands for so far. -/
def OpenBracket.set (bracket : OpenBracket) : ClassExpr :=
  let right := match bracket.items with
    | [item] => item
    | items => .union items.reverse
  match bracket.pending with
  | some (operator, left) => .binary operator left right
  | none => right

/-- Adds an item to an open bracket. -/
def OpenBracket.push (bracket : OpenBracket) (item : ClassExpr) : OpenBracket :=
  { bracket with items := item :: bracket.items }

/-- Starts the right side of an operator. -/
def OpenBracket.operate (bracket : OpenBracket) (operator : SetOperator) : OpenBracket :=
  { bracket with items := [], pending := some (operator, bracket.set) }

/-- Hyphens at the start of a bracket stand for themselves. -/
def takeHyphens (verbose : Bool) : Nat → List Char → List ClassExpr × List Char
  | fuel + 1, '-' :: rest =>
    let (items, rest) := takeHyphens verbose fuel (skip verbose rest)
    (.literal ⟨'-', false⟩ :: items, rest)
  | _, text => ([], text)

/-- What follows an opening bracket: a sign of negation, hyphens, and a closing
bracket that stands for itself because nothing was read before it. -/
def openBracket (verbose : Bool) (text : List Char) : Option (OpenBracket × List Char) :=
  let text := skip verbose text
  let (negated, text) := match text with
    | '^' :: rest => (true, skip verbose rest)
    | _ => (false, text)
  let (hyphens, text) := takeHyphens verbose text.length text
  let (items, text) := match hyphens, text with
    | [], ']' :: rest => ([ClassExpr.literal ⟨']', false⟩], skip verbose rest)
    | _, _ => (hyphens, text)
  match text with
  | [] => none
  | _ => some (⟨negated, items, none⟩, text)

/-- A class of ASCII by its name, written between `[:` and `:]`. -/
def parseAsciiClass? (text : List Char) : Option (ClassExpr × List Char) :=
  match text with
  | '[' :: ':' :: rest =>
    let (negated, rest) := match rest with
      | '^' :: rest => (true, rest)
      | _ => (false, rest)
    match rest.dropWhile (· != ':') with
    | ':' :: ']' :: after =>
      (AsciiClass.ofName? (String.ofList (rest.takeWhile (· != ':')))).map fun cls =>
        (.ascii cls negated, after)
    | _ => none
  | _ => none

/-- A character or an escape in brackets. -/
def parseClassAtom (verbose : Bool) : List Char → Option (Atom × List Char)
  | [] => none
  | '\\' :: rest => parseEscape verbose rest
  | c :: rest => some (.literal ⟨c, false⟩, rest)

/-- The next character that is not passed over, after the first one. In a
comment the next character that is not blank counts. -/
def peekAfter (verbose : Bool) (text : List Char) : Option Char :=
  let rest := text.drop 1
  if verbose then
    match rest.dropWhile isSpace with
    | '#' :: comment => (comment.dropWhile isSpace).head? <|> rest.head?
    | found => found.head? <|> rest.head?
  else rest.head?

/-- An item of a bracket: a range between two characters, or one character or
class. A hyphen before another hyphen or before the closing bracket makes no
range. -/
def parseClassItem (verbose : Bool) (text : List Char) : Option (ClassExpr × List Char) := do
  let (first, rest) ← parseClassAtom verbose text
  let rest := skip verbose rest
  let next := peekAfter verbose rest
  if rest.isEmpty then none
  else if rest.head? != some '-' || next == some ']' || next == some '-' then
    match first with
    | .literal l => return (.literal l, rest)
    | .short cls negated => return (.short cls negated, rest)
    | .property query negated => return (.property query negated, rest)
    | .assertion _ => none
  else
    let (last, rest) ← parseClassAtom verbose (skip verbose (rest.drop 1))
    match first, last with
    | .literal l, .literal m => if l.char ≤ m.char then return (.range l m, rest) else none
    | _, _ => none

/-- Reads on in the bracket `current`, which stands within the brackets
`outer`, innermost first, until the outermost one is closed. -/
def parseBrackets (verbose : Bool) :
    Nat → List OpenBracket → OpenBracket → List Char → Option (Expr × List Char)
  | 0, _, _, _ => none
  | fuel + 1, outer, current, text =>
    match skip verbose text with
    | [] => none
    | '[' :: rest =>
      match parseAsciiClass? ('[' :: rest) with
      | some (item, rest) => parseBrackets verbose fuel outer (current.push item) rest
      | none => do
        let (inner, rest) ← openBracket verbose rest
        parseBrackets verbose fuel (current :: outer) inner rest
    | ']' :: rest =>
      match outer with
      | [] => some (.bracket current.negated current.set, rest)
      | enclosing :: outer =>
        parseBrackets verbose fuel outer
          (enclosing.push (.bracket current.negated current.set)) rest
    | '&' :: '&' :: rest =>
      parseBrackets verbose fuel outer (current.operate .intersection) rest
    | '-' :: '-' :: rest => parseBrackets verbose fuel outer (current.operate .difference) rest
    | '~' :: '~' :: rest =>
      parseBrackets verbose fuel outer (current.operate .symmetricDifference) rest
    | text => do
      let (item, rest) ← parseClassItem verbose text
      parseBrackets verbose fuel outer (current.push item) rest

/-- A whole bracket, after its opening. -/
def parseBracket (verbose : Bool) (text : List Char) : Option (Expr × List Char) := do
  let (current, rest) ← openBracket verbose text
  parseBrackets verbose (rest.length + 1) [] current rest

/-! ### Flags and groups -/

/-- Reads the letter of a flag. -/
def Flag.ofLetter? : Char → Option Flag
  | 'i' => some .caseInsensitive
  | 'm' => some .multiLine
  | 's' => some .dotMatchesNewline
  | 'U' => some .swapGreed
  | 'u' => some .unicode
  | 'R' => some .carriageReturn
  | 'x' => some .verbose
  | _ => none

/-- Flags up to a colon or a closing parenthesis, which is the third part of
the result. No flag may be named twice, and a hyphen, behind which flags are
cleared, may occur once and not at the end. -/
def parseFlags (change : FlagChange) (cleared : Bool) :
    List Char → Option (FlagChange × Char × List Char)
  | [] => none
  | c :: rest =>
    if c = ':' ∨ c = ')' then some (change.reverse, c, rest)
    else if c = '-' then
      if cleared then none
      else
        match rest with
        | ':' :: _ | ')' :: _ => none
        | _ => parseFlags change true rest
    else
      match Flag.ofLetter? c with
      | some flag =>
        if change.any (·.1 == flag) then none else parseFlags ((flag, !cleared) :: change) cleared rest
      | none => none

/-- What a change of flags does to one flag. -/
def FlagChange.apply (change : FlagChange) (flag : Flag) (value : Bool) : Bool :=
  (change.lookup flag).getD value

/-- The name of a group, up to the closing angle bracket. -/
def parseGroupName (text : List Char) : Option (String × List Char) :=
  let name := text.takeWhile (· != '>')
  match name, text.dropWhile (· != '>') with
  | first :: others, _ :: rest =>
    if (first = '_' || isAlphabetic first) &&
        others.all fun c => c = '_' || c = '.' || c = '[' || c = ']' || isAlphanumeric c then
      some (String.ofList name, rest)
    else none
  | _, _ => none

/-- A group that is open: its kind, what was read before it in the enclosing
group, and whether the pattern was verbose there. -/
structure OpenGroup where
  kind : GroupKind
  branches : List Expr
  parts : List Expr
  verbose : Bool

/-- A pattern in the middle of being read. The open groups come innermost
first; the branches and parts of the innermost one come last one first. -/
structure Reading where
  verbose : Bool := false
  captures : Nat := 0
  names : List (String × Nat) := []
  outer : List OpenGroup := []
  branches : List Expr := []
  parts : List Expr := []

/-- The expression read in the innermost group so far. -/
def Reading.expr (r : Reading) : Expr :=
  Expr.choice (Expr.sequence r.parts.reverse :: r.branches).reverse

/-- Adds a part to the innermost group. -/
def Reading.push (r : Reading) (part : Expr) : Reading :=
  { r with parts := part :: r.parts }

/-- Opens a group of the given kind. -/
def Reading.enter (r : Reading) (kind : GroupKind) (verbose : Bool) : Reading :=
  { r with
    verbose := verbose
    outer := ⟨kind, r.branches, r.parts, r.verbose⟩ :: r.outer
    branches := []
    parts := [] }

/-- Opens a group that captures, with the next index. -/
def Reading.enterCapture (r : Reading) (name : Option String) : Option Reading :=
  let index := r.captures + 1
  match name with
  | none => some ({ r with captures := index }.enter (.capture index) r.verbose)
  | some name =>
    if r.names.any (·.1 == name) then none
    else
      some ({ r with captures := index, names := (name, index) :: r.names }.enter
        (.capture index) r.verbose)

/-- Closes the innermost group. -/
def Reading.leave (r : Reading) : Option Reading :=
  match r.outer with
  | [] => none
  | group :: outer =>
    some { r with
      verbose := group.verbose
      outer := outer
      branches := group.branches
      parts := .group group.kind r.expr :: group.parts }

/-- What follows an opening parenthesis. -/
def Reading.open (r : Reading) (text : List Char) : Option (Reading × List Char) :=
  match skip r.verbose text with
  | '?' :: '=' :: _ | '?' :: '!' :: _ | '?' :: '<' :: '=' :: _ | '?' :: '<' :: '!' :: _ => none
  | '?' :: 'P' :: '<' :: rest | '?' :: '<' :: rest => do
    let (name, rest) ← parseGroupName rest
    return (← r.enterCapture name, rest)
  | '?' :: rest => do
    let (change, last, rest) ← parseFlags [] false rest
    let verbose := change.apply .verbose r.verbose
    if last = ')' then
      if change.isEmpty then none
      else return ({ r with verbose := verbose }.push (.setFlags change), rest)
    else
      return (r.enter (.plain change) verbose, rest)
  | rest => do
    return (← r.enterCapture none, rest)

/-! ### Repetitions -/

/-- Repeats the last part, which has to be something other than a change of
flags. -/
def Reading.repeat (r : Reading) (least : Nat) (most : Option Nat) (text : List Char) :
    Option (Reading × List Char) :=
  let (greedy, rest) := match text with
    | '?' :: rest => (false, rest)
    | _ => (true, text)
  match r.parts with
  | [] | .setFlags _ :: _ => none
  | part :: parts => some ({ r with parts := .repetition part least most greedy :: parts }, rest)

/-- The counts of a repetition, after the opening brace. -/
def parseCounts (verbose : Bool) (text : List Char) :
    Option (Nat × Option Nat × List Char) := do
  let (least, rest) ← parseCount verbose (skip verbose text)
  match rest with
  | '}' :: rest => return (least, some least, skip verbose rest)
  | ',' :: rest =>
    match skip verbose rest with
    | '}' :: rest => return (least, none, skip verbose rest)
    | rest =>
      let (most, rest) ← parseCount verbose rest
      match rest with
      | '}' :: rest => if least ≤ most then return (least, some most, skip verbose rest) else none
      | _ => none
  | _ => none

/-! ### Patterns -/

/-- The expression of an atom. -/
def Atom.expr : Atom → Expr
  | literal l => .literal l
  | assertion kind => .assertion kind
  | short cls negated => .short cls negated
  | property query negated => .property query negated

/-- Reads one item of a pattern. -/
def Reading.step (r : Reading) : List Char → Option (Reading × List Char)
  | [] => some (r, [])
  | '(' :: rest => r.open rest
  | ')' :: rest => r.leave.map fun r => (r, rest)
  | '|' :: rest =>
    some ({ r with branches := Expr.sequence r.parts.reverse :: r.branches, parts := [] }, rest)
  | '[' :: rest => (parseBracket r.verbose rest).map fun (expr, rest) => (r.push expr, rest)
  | '?' :: rest => r.repeat 0 (some 1) rest
  | '*' :: rest => r.repeat 0 none rest
  | '+' :: rest => r.repeat 1 none rest
  | '{' :: rest => do
    let (least, most, rest) ← parseCounts r.verbose rest
    r.repeat least most rest
  | '\\' :: rest =>
    (parseEscape r.verbose rest).map fun (atom, rest) => (r.push atom.expr, rest)
  | '.' :: rest => some (r.push .dot, rest)
  | '^' :: rest => some (r.push (.assertion .lineStart), rest)
  | '$' :: rest => some (r.push (.assertion .lineEnd), rest)
  | c :: rest => some (r.push (.literal ⟨c, false⟩), rest)

/-- Reads to the end of the pattern. Each item takes at least one character, so
the length of the text is fuel enough. -/
def Reading.run : Nat → Reading → List Char → Option Reading
  | fuel, r, text =>
    match skip r.verbose text with
    | [] => some r
    | text =>
      match fuel with
      | 0 => none
      | fuel + 1 => do
        let (r, rest) ← r.step text
        Reading.run fuel r rest

/-- A pattern that was read: its expression, the number of groups that capture
and the names among them. -/
structure Parsed where
  expr : Expr
  captures : Nat
  names : List (String × Nat)

/-- The nesting beyond which patterns are refused. -/
def nestingLimit : Nat := 250

/-- Reads a pattern. -/
def Expr.parse? (text : List Char) : Option Parsed := do
  let r ← Reading.run text.length {} text
  match r.outer with
  | [] =>
    let expr := r.expr
    if expr.nesting ≤ nestingLimit then return ⟨expr, r.captures, r.names⟩ else none
  | _ :: _ => none

end Bindery.Pattern

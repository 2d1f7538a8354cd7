/-
Searching a text for a pattern.

All ways to match are followed side by side, in the order of preference. At
each position a `Threads` value holds the instructions that are waiting for a
character, every one at most once, with the positions recorded on the way that
is preferred among those that lead to it. `Program.search` finds the leftmost
match, and of those the preferred one; `Program.matches` lists the matches of a
text from left to right.
-/

import Bindery.Pattern.Program

namespace Bindery.Pattern

/-- The positions recorded on one way through a program. -/
abbrev Slots := Array (Option Nat)

/-- The ways that are followed at one position: which instructions were
visited, and those that wait for a character, in the order of preference. -/
structure Threads where
  visited : Array Bool
  waiting : Array (Nat × Slots)

/-- No ways at all. -/
def Program.noThreads (program : Program) : Threads :=
  ⟨Array.replicate program.code.size false, #[]⟩

/-- A position of the text: its number and the characters beside it. -/
structure Position where
  index : Nat
  before : Option Char
  after : Option Char

/-- Follows the instructions on the stack that read no character, preferred
ones first. Each instruction is followed once, by the first way that reaches
it. -/
def Program.follow (program : Program) (here : Position) :
    Nat → List (Nat × Slots) → Threads → Threads
  | 0, _, threads => threads
  | _, [], threads => threads
  | fuel + 1, (address, slots) :: stack, threads =>
    if threads.visited.getD address true then program.follow here fuel stack threads
    else
      let threads := { threads with visited := threads.visited.setIfInBounds address true }
      match program.code[address]? with
      | none => program.follow here fuel stack threads
      | some (.check condition next) =>
        if condition.holds here.before here.after then
          program.follow here fuel ((next, slots) :: stack) threads
        else program.follow here fuel stack threads
      | some (.save slot next) =>
        program.follow here fuel ((next, slots.setIfInBounds slot (some here.index)) :: stack) threads
      | some (.split first second) =>
        program.follow here fuel ((first, slots) :: (second, slots) :: stack) threads
      | some (.read _ _) | some .accept =>
        program.follow here fuel stack
          { threads with waiting := threads.waiting.push (address, slots) }

/-- Adds the ways that start at an address. Every instruction is followed once
and puts at most two more on the stack, which bounds the fuel. -/
def Program.enter (program : Program) (here : Position) (address : Nat) (slots : Slots)
    (threads : Threads) : Threads :=
  program.follow here (2 * program.code.size + 2) [(address, slots)] threads

/-- Moves the waiting ways over the next character to position `here`. A way
that has matched is the new best, and the ways behind it are dropped. -/
def Program.advance (program : Program) (here : Position) (c : Option Char) :
    List (Nat × Slots) → Threads → Option Slots → Threads × Option Slots
  | [], threads, best => (threads, best)
  | (address, slots) :: waiting, threads, best =>
    match program.code[address]? with
    | some .accept => (threads, some slots)
    | some (.read set next) =>
      let moved := match c with
        | some c => if set.mem c then program.enter here next slots threads else threads
        | none => threads
      program.advance here c waiting moved best
    | _ => program.advance here c waiting threads best

/-- Searches the rest of a text. As long as nothing has matched, a match may
start at every position, with less preference than the ways that started
before. -/
def Program.scan (program : Program) (index : Nat) (before : Option Char) :
    List Char → Threads → Option Slots → Option Slots
  | text, threads, best =>
    if threads.waiting.isEmpty && best.isSome then best
    else
      let threads :=
        if best.isSome then threads
        else
          program.enter ⟨index, before, text.head?⟩ program.start
            (Array.replicate program.slots none) threads
      match text with
      | [] =>
        (program.advance ⟨index, before, none⟩ none threads.waiting.toList
          program.noThreads best).2
      | c :: rest =>
        let (moved, best) :=
          program.advance ⟨index + 1, some c, rest.head?⟩ (some c) threads.waiting.toList
            program.noThreads best
        program.scan (index + 1) (some c) rest moved best

/-- The leftmost match at or behind a position: the positions it recorded. -/
def Program.search (program : Program) (text : List Char) (start : Nat) : Option Slots :=
  if start ≤ text.length then
    program.scan start (if start = 0 then none else text[start - 1]?) (text.drop start)
      program.noThreads none
  else none

/-- The matches at or behind `start`, from left to right. An empty match right
at the end of the match before it does not count. Behind a match the search
goes on where it ended, so a position is tried twice at most, which bounds the
fuel. -/
def Program.matchesFrom (program : Program) (text : List Char) :
    Nat → Nat → Option Nat → List (Nat × Nat × Slots)
  | 0, _, _ => []
  | fuel + 1, start, last =>
    match program.search text start with
    | none => []
    | some slots =>
      match slots.getD 0 none, slots.getD 1 none with
      | some first, some stop =>
        if first = stop ∧ last = some stop then
          program.matchesFrom text fuel (start + 1) last
        else
          (first, stop, slots) :: program.matchesFrom text fuel stop (some stop)
      | _, _ => []

/-- The matches of a text, from left to right. -/
def Program.matches (program : Program) (text : List Char) : List (Nat × Nat × Slots) :=
  program.matchesFrom text (2 * text.length + 3) 0 none

end Bindery.Pattern

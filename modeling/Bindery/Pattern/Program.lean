/-
Programs that match patterns.

A `Program` is a list of instructions addressed by position. `Node.emit`
appends the instructions of a node in such a way that they go on at a given
address, and answers with the address at which they start. A choice tries its
first target first; repetitions are choices between another round and going
on.
-/

import Bindery.Pattern.Node

namespace Bindery.Pattern

/-- An instruction. Targets are addresses of instructions. -/
inductive Instruction where
  /-- Reads one character of the set. -/
  | read (set : CharSet) (next : Nat)
  /-- Goes on if the condition holds here. -/
  | check (condition : Look) (next : Nat)
  /-- Records the position. -/
  | save (slot : Nat) (next : Nat)
  /-- Tries both targets, the first one first. -/
  | split (first second : Nat)
  /-- The pattern has matched. -/
  | accept

/-- Applies a function a number of times. -/
def iterate {σ : Type} (f : σ → σ) : Nat → σ → σ
  | 0, s => s
  | n + 1, s => iterate f n (f s)

/-- A choice between another round and going on, in the order of
preference. -/
def Instruction.round (greedy : Bool) (again next : Nat) : Instruction :=
  if greedy then .split again next else .split next again

/-- The state of the emission: the address at which what was emitted last
starts, and the instructions so far. -/
abbrev Emitted := Nat × Array Instruction

/-- Appends one instruction, which is then where to start. -/
def Emitted.push (instruction : Instruction) (code : Array Instruction) : Emitted :=
  (code.size, code.push instruction)

/-- Appends the instructions of a node in front of what was emitted before. -/
def Node.emit : Node → Emitted → Emitted
  | .empty, next => next
  | .chars set, (next, code) => Emitted.push (.read set next) code
  | .look condition, (next, code) => Emitted.push (.check condition next) code
  | .seq first second, next => first.emit (second.emit next)
  | .alt first second, (next, code) =>
    let (second, code) := second.emit (next, code)
    let (first, code) := first.emit (next, code)
    Emitted.push (.split first second) code
  | .capture index body, (next, code) =>
    let (start, code) := body.emit (Emitted.push (.save (2 * index + 1) next) code)
    Emitted.push (.save (2 * index) start) code
  | .repetition body least most greedy, (next, code) =>
    match body.rounds least most with
    | (least, some most) =>
      let optional : Emitted → Emitted := fun rest =>
        let (start, code) := body.emit rest
        Emitted.push (.round greedy start next) code
      iterate body.emit least (iterate optional (most - least) (next, code))
    | (least, none) =>
      -- The choice behind a round stands before the round, whose start is not
      -- known yet; it is put in once the round has been emitted.
      let choice := code.size
      let (start, code) := body.emit (choice, code.push (.split next next))
      let code := code.setIfInBounds choice (.round greedy start next)
      if least = 0 then
        if body.canBeEmpty then Emitted.push (.round greedy start next) code else (choice, code)
      else iterate body.emit (least - 1) (start, code)

/-- A program: its instructions, where it starts and how many positions it
records. -/
structure Program where
  code : Array Instruction
  start : Nat
  slots : Nat

/-- The program of a node with the given number of captured groups. The whole
match is captured as group zero. -/
def Node.program (node : Node) (captures : Nat) : Program :=
  let (start, code) := (Node.capture 0 node).emit (Emitted.push .accept #[])
  ⟨code, start, 2 * (captures + 1)⟩

end Bindery.Pattern

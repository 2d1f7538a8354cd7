/-
Properties of code points that hold over long runs, kept as the list of runs.

A listing spells each run as the name of its value followed by the run's length
in decimal, so `Cc32Zs1Po3` says that the first 32 code points are `Cc`, the
next one `Zs` and the next three `Po`. The main definitions are

* `RunTable.decode`, which reads such a listing;
* `RunTable.find?`, the value on the run that contains a code point.
-/

namespace Bindery.Unicode

/-- A property of code points: the first code point of each run together with
the value on that run, in ascending order. -/
structure RunTable (α : Type) where
  runs : Array (Nat × α)

namespace RunTable

/-- A reader in the middle of a listing: the runs read so far, the code point
at which the current run starts, the name of its value (last character first)
and its length, absent as long as no digit was read. -/
structure Reader (α : Type) where
  runs : Array (Nat × α) := #[]
  first : Nat := 0
  name : List Char := []
  length : Option Nat := none

/-- Ends the current run. A run whose value has no known name is skipped, and
so is one without a length. -/
def Reader.flush {α : Type} (value : String → Option α) (r : Reader α) : Reader α :=
  match r.length with
  | none => r
  | some n =>
    { runs := match value (String.ofList r.name.reverse) with
        | some v => r.runs.push (r.first, v)
        | none => r.runs
      first := r.first + n }

/-- Reads one character: a digit extends the length, and any other character
extends the name, starting the next run when a length was read already. -/
def Reader.step {α : Type} (value : String → Option α) (r : Reader α) (c : Char) : Reader α :=
  if c.isDigit then
    { r with length := some (r.length.getD 0 * 10 + (c.toNat - '0'.toNat)) }
  else
    let r := r.flush value
    { r with name := c :: r.name }

/-- Reads one line of a listing. -/
def Reader.line {α : Type} (value : String → Option α) (r : Reader α) (line : String) : Reader α :=
  line.toList.foldl (Reader.step value) r

/-- The table spelled by the lines of a listing, whose value names are read by
`value`. -/
def decode {α : Type} (value : String → Option α) (listing : List String) : RunTable α :=
  ⟨((listing.foldl (Reader.line value) {}).flush value).runs⟩

/-- The number of runs among `lo, …, hi - 1` and before that start at or before
code point `n`, by bisection. -/
def position {α : Type} (runs : Array (Nat × α)) (n lo hi : Nat) : Nat :=
  if lo < hi then
    let mid := (lo + hi) / 2
    match runs[mid]? with
    | some (first, _) =>
      if first ≤ n then position runs n (mid + 1) hi else position runs n lo mid
    | none => lo
  else
    lo
termination_by hi - lo

/-- The value on the run that contains code point `n`. -/
def find? {α : Type} (table : RunTable α) (n : Nat) : Option α :=
  match position table.runs n 0 table.runs.size with
  | 0 => none
  | k + 1 => table.runs[k]?.map Prod.snd

end RunTable

end Bindery.Unicode

/-!
Tables over all code points, written as runs.

A run is a code, one capital and then small letters, followed by the number of code points that
share it. The first run starts at the first code point, and a run may go on in the next line.
-/

namespace Architecture.Unicode

/-- A reader's state within a text of runs. -/
structure RunReader where
  runs : Array (Nat × String) := #[]
  start : Nat := 0
  code : String := ""
  length : Nat := 0

namespace RunReader

def flush (r : RunReader) : RunReader :=
  if r.length = 0 then r
  else { r with runs := r.runs.push (r.start, r.code), start := r.start + r.length, length := 0 }

def read (r : RunReader) (c : Char) : RunReader :=
  if c.isDigit then { r with length := r.length * 10 + (c.toNat - '0'.toNat) }
  else if c.isUpper then { r.flush with code := c.toString }
  else { r with code := r.code.push c }

end RunReader

/-- Where each run starts, with the code of the run. -/
def decodeRuns (lines : List String) : Array (Nat × String) :=
  ((lines.flatMap String.toList).foldl RunReader.read {}).flush.runs

/-- The code of the last run that starts at or before a position, found by halving the interval
that holds it. -/
def lookupRun (table : Array (Nat × String)) (n low high : Nat) : String :=
  if high ≤ low + 1 then (table[low]?.map (·.2)).getD ""
  else
    let middle := (low + high) / 2
    if (table[middle]?.map (·.1)).getD 0 ≤ n then lookupRun table n middle high
    else lookupRun table n low middle
termination_by high - low

def inRanges (ranges : List (Nat × Nat)) (c : Char) : Bool :=
  ranges.any fun (low, high) => low ≤ c.toNat && c.toNat ≤ high

end Architecture.Unicode

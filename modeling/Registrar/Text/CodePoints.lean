/-!
# Sets of code points

A property of characters is stored as a list of runs, each giving its first and last code
point. A strided run holds every `step`-th code point between the two, which keeps alphabets
whose cases alternate short.
-/

namespace Registrar.Text

/-- Some run of the list has `n` between its two ends. -/
def inRuns (runs : List (Nat × Nat)) (n : Nat) : Bool :=
  runs.any fun run => run.1 ≤ n && n ≤ run.2

/-- Some run of the list reaches `n` from its first code point in whole steps. -/
def inStridedRuns (runs : List (Nat × Nat × Nat)) (n : Nat) : Bool :=
  runs.any fun run => run.1 ≤ n && n ≤ run.2.1 && (n - run.1) % run.2.2 == 0

end Registrar.Text

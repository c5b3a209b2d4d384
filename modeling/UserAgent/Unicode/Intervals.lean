/-!
# Sets and maps of code points

A property of characters is kept as the sorted list of the code points where it begins and ends to
hold, and a mapping of characters as a sorted list of runs, each of which moves its members by one
fixed distance. Both are searched by halving.
-/

namespace UserAgent.Unicode

/-! ### Halving -/

/-- The number of leading entries of `keys` that are at most `n`, given that it lies between `low`
and `high`. The first argument bounds the number of halvings. -/
def rankBetween (keys : Array Nat) (n : Nat) : Nat → Nat → Nat → Nat
  | 0, low, _ => low
  | steps + 1, low, high =>
    if low < high then
      let middle := (low + high) / 2
      if keys.getD middle 0 ≤ n then rankBetween keys n steps (middle + 1) high
      else rankBetween keys n steps low middle
    else low

/-- The number of entries of the sorted array `keys` that are at most `n`. -/
def rank (keys : Array Nat) (n : Nat) : Nat :=
  rankBetween keys n keys.size 0 keys.size

/-! ### Sets -/

/-- A set of code points: it holds from the first bound up to the second, from the third up to the
fourth, and so on. -/
structure Intervals where
  ofBounds ::
  bounds : Array Nat

namespace Intervals

/-- A code point belongs to the set when an odd number of bounds lies at or below it. -/
def contains (s : Intervals) (n : Nat) : Bool :=
  rank s.bounds n % 2 == 1

/-- Whether some code point from `low` to `high` belongs to the set. -/
def meets (s : Intervals) (low high : Nat) : Bool :=
  s.contains low || (low < high && rank s.bounds low < rank s.bounds high)

/-- The greatest bound that is at most `n`, which for a member is where its interval begins. -/
def start (s : Intervals) (n : Nat) : Nat :=
  s.bounds.getD (rank s.bounds n - 1) 0

end Intervals

/-! ### Maps -/

/-- One run of a mapping: the members are `first`, `first + step`, ..., `last`, and each is moved by
`distance`. -/
structure Run where
  first : Nat
  last : Nat
  step : Nat
  distance : Int

namespace Run

/-- Whether a code point is a member of the run. -/
def contains (r : Run) (n : Nat) : Bool :=
  r.first ≤ n && n ≤ r.last && (n - r.first) % r.step == 0

/-- The image of a member. -/
def apply (r : Run) (n : Nat) : Nat :=
  (n + r.distance).toNat

/-- The member whose image is `n`, if there is one. -/
def source? (r : Run) (n : Nat) : Option Nat :=
  let origin := (n - r.distance).toNat
  if r.contains origin && r.apply origin == n then some origin else none

end Run

/-- A mapping of code points that moves the members of its runs and keeps all else. -/
structure Shifts where
  runs : Array Run
  starts : Array Nat

namespace Shifts

/-- The mapping with the given runs, which are sorted and do not overlap. -/
def ofRuns (runs : Array (Nat × Nat × Nat × Int)) : Shifts where
  runs := runs.map fun (first, last, step, distance) => ⟨first, last, step, distance⟩
  starts := runs.map (·.1)

/-- The image of a member of some run. A run with the distance zero has members too. -/
def image? (s : Shifts) (n : Nat) : Option Nat :=
  match s.runs[rank s.starts n - 1]? with
  | some r => if r.contains n then some (r.apply n) else none
  | none => none

/-- The image of a code point. -/
def apply (s : Shifts) (n : Nat) : Nat :=
  (s.image? n).getD n

/-- The moved code points whose image is `n`. -/
def sources (s : Shifts) (n : Nat) : List Nat :=
  s.runs.toList.filterMap (·.source? n)

end Shifts

end UserAgent.Unicode

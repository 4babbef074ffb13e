import WebhookDelivery.Text.Hex

/-!
# Sets and maps of code points

Unicode properties are long lists of ranges. They are kept as lines of text, `41-5a 61 c0-d6`:
code points in hexadecimal, in ascending order, a range joined by `-`. A property that is more than
a set gives each range a value after a colon: `300-314:e6`.

A set is stored as the sorted list of places where membership changes, so that a code point
belongs to it exactly when an odd number of those places lie at or below it; one binary search
answers a question.
-/

namespace WebhookDelivery.Unicode

/-- The main block of Han characters, of which names beyond ASCII are often made. Each of them
stands for itself, is read from left to right and goes into no other character, so that nothing
about it has to be looked up. -/
def isHan (c : Char) : Bool := 0x4e00 ≤ c.toNat && c.toNat ≤ 0x9fff

-- ---------------------------------------------------------------------------
-- Reading the range text
-- ---------------------------------------------------------------------------

/-- The number that a run of hexadecimal digits writes; the tables hold nothing else. -/
def readHex (s : String) : Nat :=
  (Hex.read? s.toList).getD 0

/-- `a-b` as the range from `a` to `b`, a single `a` as the range of one code point. -/
def readRange (s : String) : Nat × Nat :=
  match s.splitOn "-" with
  | [a, b] => (readHex a, readHex b)
  | _ => (readHex s, readHex s)

/-- The entries of a property's lines. -/
def entriesOf (lines : List String) : List String :=
  lines.flatMap (·.splitOn " ")

/-- The ranges of a property's lines. -/
def readRanges (lines : List String) : List (Nat × Nat) :=
  (entriesOf lines).map readRange

/-- The ranges of a property's lines with the value written after each. -/
def readEntries (lines : List String) : List ((Nat × Nat) × String) :=
  (entriesOf lines).map fun entry =>
    match entry.splitOn ":" with
    | [range, value] => (readRange range, value)
    | _ => (readRange entry, "")

-- ---------------------------------------------------------------------------
-- Search
-- ---------------------------------------------------------------------------

/-- How many leading elements of the sorted `keys` are at most `c`, looking only at the indices
from `lo` up to `hi`. -/
def rankBetween (keys : Array Nat) (c lo hi : Nat) : Nat :=
  if lo < hi then
    let mid := (lo + hi) / 2
    if keys.getD mid 0 ≤ c then rankBetween keys c (mid + 1) hi
    else rankBetween keys c lo mid
  else lo
termination_by hi - lo

/-- How many elements of the sorted `keys` are at most `c`. -/
def rank (keys : Array Nat) (c : Nat) : Nat :=
  rankBetween keys c 0 keys.size

-- ---------------------------------------------------------------------------
-- Sets
-- ---------------------------------------------------------------------------

/-- A set of code points, as the ascending places where membership changes. -/
structure CodePointSet where
  /-- First code point inside, first one outside again, and so on. -/
  changes : Array Nat

namespace CodePointSet

/-- The set that lines of range text describe. -/
def ofText (lines : List String) : CodePointSet :=
  ⟨((readRanges lines).flatMap fun (lo, hi) => [lo, hi + 1]).toArray⟩

/-- Membership of a code point. -/
def contains (s : CodePointSet) (c : Char) : Bool :=
  rank s.changes c.toNat % 2 == 1

end CodePointSet

-- ---------------------------------------------------------------------------
-- Maps
-- ---------------------------------------------------------------------------

/-- Disjoint ascending ranges of code points, each with a value. -/
structure CodePointMap (α : Type) where
  /-- First code point of each range. -/
  starts : Array Nat
  /-- The ranges with their values. -/
  ranges : Array ((Nat × Nat) × α)

namespace CodePointMap

/-- The map that lines of valued ranges describe. -/
def ofText {α : Type} (read : String → α) (lines : List String) : CodePointMap α :=
  let entries := (readEntries lines).toArray
  ⟨entries.map (·.1.1), entries.map fun (range, value) => (range, read value)⟩

/-- The range around a code point with its value, if it lies in one. -/
def find? {α : Type} (m : CodePointMap α) (c : Nat) : Option ((Nat × Nat) × α) :=
  match rank m.starts c with
  | 0 => none
  | i + 1 => (m.ranges[i]?).filter fun entry => c ≤ entry.1.2

end CodePointMap

end WebhookDelivery.Unicode

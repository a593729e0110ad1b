/-!
# Sets of characters as tables of ranges

A set of code points is written as one text: numbers in base 36 with spaces between them, in turn
the distance from the end of the last range and the number of further members of the next one.
-/

namespace LinkLedger
namespace Text

/-- The value of a digit in base 36. -/
def base36Digit (c : Char) : Nat :=
  if c.isDigit then c.toNat - 48 else c.toNat - 87

/-- The numbers in base 36 of a text, with spaces between them. -/
def base36Numbers (cs : List Char) : Array Nat :=
  let (done, last) := cs.foldl
    (fun (done, current) c =>
      if c = ' ' then (done.push current, 0) else (done, current * 36 + base36Digit c))
    ((#[] : Array Nat), 0)
  done.push last

/-- The ranges, each with its first and last member, from distances and lengths. -/
def rangesOf : Nat → List Nat → List (Nat × Nat)
  | position, gap :: length :: rest =>
      (position + gap, position + gap + length) ::
        rangesOf (position + gap + length + 1) rest
  | _, _ => []

/-- A set of code points as ascending ranges. -/
structure Ranges where
  ranges : Array (Nat × Nat)

/-- The set that lines of distances and lengths describe. -/
def Ranges.ofLines (lines : List String) : Ranges :=
  ⟨(rangesOf 0 (base36Numbers (" ".intercalate lines).toList).toList).toArray⟩

/-- Whether a number lies in one of the ranges between two positions, by halving. -/
def inRanges (ranges : Array (Nat × Nat)) (n : Nat) : Nat → Nat → Nat → Bool
  | 0, _, _ => false
  | fuel + 1, low, high =>
      if low < high then
        let middle := (low + high) / 2
        match ranges[middle]? with
        | none => false
        | some (first, last) =>
            if n < first then inRanges ranges n fuel low middle
            else if last < n then inRanges ranges n fuel (middle + 1) high
            else true
      else false

/-- Whether a character belongs to the set. -/
def Ranges.has (r : Ranges) (c : Char) : Bool :=
  inRanges r.ranges c.toNat 32 0 r.ranges.size

end Text
end LinkLedger

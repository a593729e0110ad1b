import LinkLedger.Text.Ranges

/-!
# Properties of characters as tables

A property gives a number to some characters.  It is written as one text of entries for runs of
characters with the same number, in ascending order: the distance from the end of the last run, a
comma, the number of further members, an equals sign, and the number they have, all in base 36.
-/

namespace LinkLedger
namespace Text

/-- A property as ascending runs, each with its first and last member and their number. -/
structure Classes where
  runs : Array (Nat × Nat × Nat)

/-- The property that lines of entries describe. -/
def Classes.ofLines (lines : List String) : Classes :=
  let number (cs : List Char) : Nat := cs.foldl (fun n c => n * 36 + base36Digit c) 0
  let (runs, _) := (lines.flatMap fun line => line.toList.splitOn ' ').foldl
    (fun (runs, start) cs =>
      let gap := cs.takeWhile (· != ',')
      let rest := cs.drop (gap.length + 1)
      let more := rest.takeWhile (· != '=')
      let first := start + number gap
      let last := first + number more
      (runs.push (first, last, number (rest.drop (more.length + 1))), last + 1))
    ((#[] : Array (Nat × Nat × Nat)), 0)
  ⟨runs⟩

/-- The number that the runs between two positions give to a code point, by halving. -/
def classIn (runs : Array (Nat × Nat × Nat)) (n : Nat) : Nat → Nat → Nat → Option Nat
  | 0, _, _ => none
  | fuel + 1, low, high =>
      if low < high then
        let middle := (low + high) / 2
        match runs[middle]? with
        | none => none
        | some (first, last, value) =>
            if n < first then classIn runs n fuel low middle
            else if last < n then classIn runs n fuel (middle + 1) high
            else some value
      else none

/-- The number that a property gives to a character. -/
def Classes.value? (p : Classes) (c : Char) : Option Nat :=
  classIn p.runs c.toNat 32 0 p.runs.size

end Text
end LinkLedger

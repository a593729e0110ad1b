import LinkLedger.Text.Ranges

/-!
# Maps of characters as tables

A map that sends some characters to texts is written as one text.  Its entries stand for runs of
characters, in ascending order.  An entry is the distance from the end of the last run, the number
of further members behind a colon (for neighbours) or a semicolon (for every other character), an
equals sign, and the image of the first member; the images of the others lie as far from it as the
members do.  Numbers are in base 36, and plus signs stand between the characters of a longer image.
-/

namespace LinkLedger
namespace Text

/-- A run of characters: its first and last member, their distance, and the image of the first. -/
structure Run where
  first : Nat
  last : Nat
  step : Nat
  image : List Nat

/-- A map of characters as ascending runs. -/
structure Mapping where
  runs : Array Run

/-- The value of digits in base 36. -/
def base36 (cs : List Char) : Nat :=
  cs.foldl (fun n c => n * 36 + base36Digit c) 0

/-- The run that an entry stands for, behind the position `start`. -/
def runOf (start : Nat) (cs : List Char) : Run :=
  let source := cs.takeWhile (· != '=')
  let image := (cs.dropWhile (· != '=')).drop 1
  let gap := source.takeWhile fun c => c != ':' && c != ';'
  let first := start + base36 gap
  let step := if source.contains ';' then 2 else 1
  ⟨first, first + base36 (source.drop (gap.length + 1)) * step, step,
    if image.isEmpty then [] else (image.splitOn '+').map base36⟩

/-- The map that lines of entries describe. -/
def Mapping.ofLines (lines : List String) : Mapping :=
  let (runs, _) := (lines.flatMap fun line => line.toList.splitOn ' ').foldl
    (fun (runs, start) cs =>
      let run := runOf start cs
      (runs.push run, run.last + 1))
    ((#[] : Array Run), 0)
  ⟨runs⟩

/-- The image of a number under the run that it belongs to. -/
def Run.image? (r : Run) (n : Nat) : Option (List Char) :=
  if (n - r.first) % r.step = 0 then
    match r.image with
    | [single] => some [Char.ofNat (single + (n - r.first))]
    | several => some (several.map Char.ofNat)
  else none

/-- The image of a number under the runs between two positions, by halving. -/
def imageIn (runs : Array Run) (n : Nat) : Nat → Nat → Nat → Option (List Char)
  | 0, _, _ => none
  | fuel + 1, low, high =>
      if low < high then
        let middle := (low + high) / 2
        match runs[middle]? with
        | none => none
        | some r =>
            if n < r.first then imageIn runs n fuel low middle
            else if r.last < n then imageIn runs n fuel (middle + 1) high
            else r.image? n
      else none

/-- The image of a character, if the map has one for it. -/
def Mapping.image? (m : Mapping) (c : Char) : Option (List Char) :=
  imageIn m.runs c.toNat 32 0 m.runs.size

end Text
end LinkLedger

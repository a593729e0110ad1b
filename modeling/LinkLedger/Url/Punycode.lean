/-!
# Text in letters and digits

The Punycode encoding: the ASCII characters of a text stand first, and what follows says where the
others go, in ascending order, as differences in a variable-length number system.
-/

namespace LinkLedger
namespace Url

/-- The character of a digit in base 36. -/
def digitChar (d : Nat) : Char :=
  if d < 26 then Char.ofNat (97 + d) else Char.ofNat (22 + d)

/-- The value of a digit in base 36. -/
def digitValue? (c : Char) : Option Nat :=
  if c.isLower then some (c.toNat - 97)
  else if c.isUpper then some (c.toNat - 65)
  else if c.isDigit then some (c.toNat - 22)
  else none

/-- The value from which on a digit at a place is the last one. -/
def threshold (place bias : Nat) : Nat :=
  if place ≤ bias then 1 else if bias + 26 ≤ place then 26 else place - bias

theorem threshold_pos (place bias : Nat) : 1 ≤ threshold place bias := by
  unfold threshold
  split
  · omega
  · split <;> omega

theorem threshold_le (place bias : Nat) : threshold place bias ≤ 26 := by
  unfold threshold
  split
  · omega
  · split <;> omega

/-- Divides a difference by 35 until it is small; `place` counts the divisions. -/
def shrink (delta place : Nat) : Nat × Nat :=
  if 455 < delta then shrink (delta / 35) (place + 36) else (delta, place)
termination_by delta
decreasing_by exact Nat.div_lt_self (by omega) (by omega)

/-- The bias behind a difference, when `count` characters are in place. -/
def adapt (delta count : Nat) (first : Bool) : Nat :=
  let start := if first then delta / 700 else delta / 2
  let (small, place) := shrink (start + start / count) 0
  place + 36 * small / (small + 38)

/-- The digits of a difference. -/
def digitsOfDelta (bias place q : Nat) : List Char :=
  let t := threshold place bias
  if q < t then [digitChar q]
  else digitChar (t + (q - t) % (36 - t)) :: digitsOfDelta bias (place + 36) ((q - t) / (36 - t))
termination_by q
decreasing_by
  have h₁ := threshold_pos place bias
  have h₂ : (q - threshold place bias) / (36 - threshold place bias) ≤ q - threshold place bias :=
    Nat.div_le_self _ _
  omega

/-- The state of the encoder: the digits so far, the current difference, the bias, and the number of
characters in place. -/
structure Encoding where
  digits : List Char
  delta : Nat
  bias : Nat
  count : Nat

/-- Goes over one character while the characters `n` are put in place. -/
def Encoding.over (basic n : Nat) (e : Encoding) (c : Char) : Encoding :=
  if c.toNat < n then { e with delta := e.delta + 1 }
  else if c.toNat = n then
    ⟨e.digits ++ digitsOfDelta e.bias 36 e.delta, 0,
      adapt e.delta (e.count + 1) (e.count == basic), e.count + 1⟩
  else e

/-- Puts the characters in place, one value after the other. -/
def encodeValues (cs : List Char) (basic : Nat) : List Nat → Nat → Encoding → Encoding
  | [], _, e => e
  | n :: ns, next, e =>
      let e := { e with delta := e.delta + (n - next) * (e.count + 1) }
      let e := cs.foldl (Encoding.over basic n) e
      encodeValues cs basic ns (n + 1) { e with delta := e.delta + 1 }

/-- The encoded form of a text. -/
def encodeLabel (cs : List Char) : List Char :=
  let basic := cs.filter fun c => c.toNat < 128
  let values := (((cs.map Char.toNat).filter fun n => 128 ≤ n).mergeSort (· ≤ ·)).eraseDups
  let start : Encoding := ⟨[], 0, 72, basic.length⟩
  basic ++ (if basic.isEmpty then [] else ['-']) ++
    (encodeValues cs basic.length values 128 start).digits

/-- Reads a difference: its value and the rest of the text. -/
def readDelta (bias : Nat) : (place weight value : Nat) → List Char → Option (Nat × List Char)
  | _, _, _, [] => none
  | place, weight, value, c :: cs =>
      match digitValue? c with
      | none => none
      | some d =>
          let t := threshold place bias
          let value := value + d * weight
          if d < t then some (value, cs)
          else readDelta bias (place + 36) (weight * (36 - t)) value cs

/-- Puts a character into a text at a place. -/
def insertAt (cs : List Char) (i : Nat) (c : Char) : List Char :=
  cs.take i ++ c :: cs.drop i

/-- Reads the differences behind the ASCII characters; `fuel` bounds their number. -/
def decodeDeltas : (fuel n i bias : Nat) → (first : Bool) → (done rest : List Char) →
    Option (List Char)
  | 0, _, _, _, _, _, _ => none
  | _ + 1, _, _, _, _, done, [] => some done
  | fuel + 1, n, i, bias, first, done, rest => do
      let (delta, rest) ← readDelta bias 36 1 0 rest
      let count := done.length + 1
      let place := i + delta
      let n := n + place / count
      if 0x10FFFF < n ∨ (0xD800 ≤ n ∧ n ≤ 0xDFFF) then none
      else
        decodeDeltas fuel n (place % count + 1) (adapt delta count first) false
          (insertAt done (place % count) (Char.ofNat n)) rest

/-- The text that a label encodes. -/
def decodeLabel? (cs : List Char) : Option (List Char) :=
  let tail := (cs.reverse.takeWhile (· != '-')).reverse
  let basic := cs.take (cs.length - tail.length - 1)
  if basic.all fun c => c.toNat < 128 then decodeDeltas (cs.length + 1) 128 0 72 true basic tail
  else none

end Url
end LinkLedger

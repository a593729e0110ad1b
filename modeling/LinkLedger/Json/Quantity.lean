import LinkLedger.Json.Basic

/-!
# What a spelled number stands for

A number without point and exponent is a whole number as long as it fits into 64 bits; every other
number is read as a floating point number from its leading digits that fit into 64 bits and a power
of ten.
-/

namespace LinkLedger
namespace Json

/-- The value of a number: a natural number below `2 ^ 64`, the negative of a positive number up
to `2 ^ 63`, or a floating point number. -/
inductive Quantity where
  | natural (n : Nat)
  | negative (n : Nat)
  | float (x : Float)

/-- The largest natural number of 64 bits. -/
def maxNatural : Nat := 0xFFFFFFFFFFFFFFFF

/-- The value of a decimal digit. -/
def digitValue (c : Char) : Nat := c.toNat - 48

/-- The number that digits spell. -/
def numberOfDigits (digits : List Char) : Nat :=
  digits.foldl (fun n c => n * 10 + digitValue c) 0

/-- Takes digits in front of the point into a 64-bit number while they fit; the others only count
as a power of ten. -/
def takeWhole : Nat → List Char → Nat × Nat
  | n, [] => (n, 0)
  | n, c :: cs =>
      if n * 10 + digitValue c ≤ maxNatural then takeWhole (n * 10 + digitValue c) cs
      else (n, cs.length + 1)

/-- Takes digits behind the point into a 64-bit number while they fit; the second part counts
those taken. -/
def takeFraction : Nat → List Char → Nat × Nat
  | n, [] => (n, 0)
  | n, c :: cs =>
      if n * 10 + digitValue c ≤ maxNatural then
        let (m, k) := takeFraction (n * 10 + digitValue c) cs
        (m, k + 1)
      else (n, 0)

/-- A float times a power of ten, in steps of at most 308 decimal places; `none` when the result is
too large. -/
def scaleFloat : Nat → Float → Int → Option Float
  | 0, _, _ => some 0.0
  | fuel + 1, x, power =>
      if power.natAbs ≤ 308 then
        if 0 ≤ power then
          let y := x * Float.ofScientific 1 false power.toNat
          if y.isInf then none else some y
        else some (x / Float.ofScientific 1 false power.natAbs)
      else if x == 0.0 then some x
      else if 0 ≤ power then none
      else scaleFloat fuel (x / Float.ofScientific 1 false 308) (power + 308)

/-- The largest exponent that is taken literally. -/
def maxPower : Nat := 0x7FFFFFFF

/-- The floating point number from leading digits and a power of ten, with the written exponent. -/
def floatOf (n : Nat) (power : Int) (written : Option (Bool × List Char)) : Option Float :=
  match written with
  | none => scaleFloat 8 n.toUInt64.toFloat power
  | some (down, digits) =>
      let e := numberOfDigits digits
      if e > maxPower then
        if n ≠ 0 ∧ down = false then none else some 0.0
      else scaleFloat 8 n.toUInt64.toFloat (if down then power - e else power + e)

/-- The value of a number, `none` when it is too large for a floating point number. -/
def Numeral.quantity? (n : Numeral) : Option Quantity :=
  let (lead, dropped) := takeWhole 0 n.whole
  let signed (x : Float) : Quantity := .float (if n.negative then -x else x)
  if n.fraction.isEmpty ∧ n.power.isNone ∧ dropped = 0 then
    if n.negative = false then some (.natural lead)
    else if lead = 0 then some (.float (-0.0))
    else if lead ≤ 0x8000000000000000 then some (.negative lead)
    else some (signed lead.toUInt64.toFloat)
  else
    let (digits, taken) := takeFraction lead n.fraction
    (floatOf digits ((dropped : Int) - taken) n.power).map signed

/-- The text of a number in messages and in documents. -/
def Quantity.write : Quantity → List Char
  | .natural n => Decimal.digitsOf n
  | .negative n => '-' :: Decimal.digitsOf n
  | .float x => Decimal.writeFloat x

end Json
end LinkLedger

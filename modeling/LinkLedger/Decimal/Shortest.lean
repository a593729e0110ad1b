/-!
# Shortest decimal text of a binary fraction

A positive binary fraction `m · 2 ^ q` is written with the fewest digits that still read back as
the same fraction; of two candidates of that length the nearer one is taken.  All arithmetic is on
natural numbers.
-/

namespace LinkLedger
namespace Decimal

/-- A finite binary fraction: sign, and magnitude `mantissa · 2 ^ exponent`. -/
structure Binary where
  negative : Bool
  mantissa : Nat
  exponent : Int
  deriving DecidableEq, Repr

/-- The leading bit of a full mantissa, which the 64 bits do not spell out: `2 ^ 52`. -/
def leadingBit : Nat := 0x10000000000000

/-- The fraction that 64 bits stand for, `none` for the infinities and non-numbers. -/
def Binary.ofBits? (bits : UInt64) : Option Binary :=
  let n := bits.toNat
  let negative := n >>> 63 = 1
  let field : Nat := (n >>> 52) % 0x800
  let rest : Nat := n % leadingBit
  if field = 2047 then none
  else if field = 0 then some ⟨negative, rest, -1074⟩
  else some ⟨negative, leadingBit + rest, (field : Int) - 1075⟩

/-- Digits and a power of ten: the number `digits · 10 ^ exponent`. -/
structure Digits where
  digits : Nat
  exponent : Int
  deriving DecidableEq, Repr

/-- A quotient of naturals that stands for `value · 2 ^ twos / 10 ^ tens`. -/
def scaled (value : Nat) (twos tens : Int) : Nat × Nat :=
  (value * Nat.pow 2 twos.toNat * Nat.pow 10 (-tens).toNat,
    Nat.pow 2 (-twos).toNat * Nat.pow 10 tens.toNat)

/-- The exponent of the leading decimal digit of `num / den`, searched downwards from `top`. -/
def leadingExponent (num den : Nat) : Nat → Int → Int
  | 0, top => top
  | fuel + 1, top =>
      if num * Nat.pow 10 (-top).toNat ≥ den * Nat.pow 10 top.toNat then top
      else leadingExponent num den fuel (top - 1)

/-- The digits of the first decimal grid, from the coarsest on, that meets the interval of numbers
that read back as `b`. -/
def shortestFrom (b : Binary) (lead : Int) : Nat → Nat → Digits
  | 0, count => ⟨0, lead - count⟩
  | fuel + 1, count =>
      let grid := lead - (count : Int) + 1
      let twos := b.exponent - 2
      let below := if b.mantissa = leadingBit ∧ b.exponent > -1074 then 1 else 2
      let (value, den) := scaled (4 * b.mantissa) twos grid
      let low := (scaled (4 * b.mantissa - below) twos grid).1
      let high := (scaled (4 * b.mantissa + 2) twos grid).1
      let inside (d : Nat) : Bool :=
        if b.mantissa % 2 = 0 then low ≤ d * den ∧ d * den ≤ high
        else low < d * den ∧ d * den < high
      let down := value / den
      let up := down + 1
      match inside down, inside up with
      | true, true =>
          if 2 * value < (down + up) * den ∨ (2 * value = (down + up) * den ∧ down % 2 = 0) then
            ⟨down, grid⟩
          else ⟨up, grid⟩
      | true, false => ⟨down, grid⟩
      | false, true => ⟨up, grid⟩
      | false, false => shortestFrom b lead fuel (count + 1)

/-- Digits without trailing zeros; `fuel` bounds their number. -/
def Digits.normalize : Nat → Digits → Digits
  | 0, d => d
  | fuel + 1, d =>
      if d.digits ≠ 0 ∧ d.digits % 10 = 0 then
        Digits.normalize fuel ⟨d.digits / 10, d.exponent + 1⟩
      else d

/-- The shortest digits of a binary fraction other than zero. -/
def Binary.shortest (b : Binary) : Digits :=
  let (num, den) := scaled b.mantissa b.exponent 0
  let lead := leadingExponent num den 640 309
  (shortestFrom b lead 18 1).normalize 20

/-- How a number is laid out: positional while the exponent of its leading digit lies between the
two bounds, with an exponent otherwise. -/
structure Layout where
  least : Int
  most : Int
  deriving Repr

/-- The decimal digits of a natural number. -/
def digitsOf (n : Nat) : List Char :=
  (Nat.toDigits 10 n)

/-- A number in a layout: the positional form has at least one digit after the point, and an
exponent always has a sign. -/
def Layout.write (layout : Layout) (negative : Bool) (d : Digits) : List Char :=
  let text := digitsOf d.digits
  let lead := d.exponent + (text.length : Int) - 1
  let sign := if negative then ['-'] else []
  let body :=
    if layout.least ≤ lead ∧ lead ≤ layout.most then
      if 0 ≤ d.exponent then text ++ List.replicate d.exponent.toNat '0' ++ ['.', '0']
      else if 0 ≤ lead then
        text.take (lead.toNat + 1) ++ '.' :: text.drop (lead.toNat + 1)
      else '0' :: '.' :: (List.replicate (-lead - 1).toNat '0' ++ text)
    else
      let mark := if lead < 0 then ['e', '-'] else ['e', '+']
      let power := digitsOf lead.natAbs
      match text with
      | [] => []
      | [c] => c :: (mark ++ power)
      | c :: rest => c :: '.' :: (rest ++ mark ++ power)
  sign ++ body

/-- The layout of numbers in this library's documents and messages. -/
def documentLayout : Layout := ⟨-5, 15⟩

/-- The text of a floating point number; zero keeps its sign. -/
def writeFloat (x : Float) : List Char :=
  match Binary.ofBits? x.toBits with
  | none => "null".toList
  | some b =>
      if b.mantissa = 0 then documentLayout.write b.negative ⟨0, 0⟩
      else documentLayout.write b.negative b.shortest

end Decimal
end LinkLedger

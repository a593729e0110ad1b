import LinkLedger.Decimal.Shortest
import LinkLedger.Url.Name
import LinkLedger.Url.Percent

/-!
# Hosts

A host is a name or an address of the Internet Protocol, version 4 or 6.
-/

namespace LinkLedger
namespace Url

/-- Why a text is no URL. -/
inductive ParseFault where
  | emptyHost
  | badName
  | badPort
  | badIpv4
  | badIpv6
  | badCharacter
  | relativeWithoutBase
  | relativeWithOpaqueBase
  deriving DecidableEq, Repr

/-- The wording of a fault. -/
def ParseFault.message : ParseFault → String
  | .emptyHost => "empty host"
  | .badName => "invalid international domain name"
  | .badPort => "invalid port number"
  | .badIpv4 => "invalid IPv4 address"
  | .badIpv6 => "invalid IPv6 address"
  | .badCharacter => "invalid domain character"
  | .relativeWithoutBase => "relative URL without a base"
  | .relativeWithOpaqueBase => "relative URL with a cannot-be-a-base base"

/-- A host: a name, the 32 bits of an address of version 4, or the eight pieces of one of
version 6. -/
inductive Host where
  | name (text : List Char)
  | ipv4 (address : Nat)
  | ipv6 (pieces : List Nat)
  deriving DecidableEq, Repr

/-! ## Version 4 -/

/-- The value of digits in a base, if they all are digits in it. -/
def numberIn? (base : Nat) (cs : List Char) : Option Nat :=
  cs.foldlM (fun n c => (hexValue? c).bind fun d => if d < base then some (n * base + d) else none)
    0

/-- A number in base 8, 10 or 16, as its start says. -/
def ipv4Number? : List Char → Option Nat
  | [] => none
  | '0' :: 'x' :: cs => numberIn? 16 cs
  | '0' :: 'X' :: cs => numberIn? 16 cs
  | '0' :: c :: cs => numberIn? 8 (c :: cs)
  | cs => numberIn? 10 cs

/-- The parts of a name between its points, without an empty last one. -/
def pointParts (cs : List Char) : List (List Char) :=
  let parts := cs.splitOn '.'
  if parts.getLast? = some [] then parts.dropLast else parts

/-- Whether the last part of a name is a number, so that the name has to be an address. -/
def endsInNumber (cs : List Char) : Bool :=
  match (pointParts cs).getLast? with
  | none => false
  | some last => (!last.isEmpty && last.all Char.isDigit) || (ipv4Number? last).isSome

/-- An address of version 4 by its parts; the last one fills what the others leave. -/
def ipv4? (cs : List Char) : Option Nat := do
  let parts := pointParts cs
  let numbers ← parts.mapM ipv4Number?
  let last ← numbers.getLast?
  let front := numbers.dropLast
  if 4 < parts.length ∨ front.any (255 < ·) = true ∨ Nat.pow 256 (4 - front.length) ≤ last then none
  else
    let high := front.zipIdx.foldl (fun sum (n, i) => sum + n * Nat.pow 256 (3 - i)) 0
    some (high + last)

/-- An address of version 4 as it is written. -/
def writeIpv4 (n : Nat) : List Char :=
  ['.'].intercalate
    ([n / 0x1000000, n / 0x10000 % 256, n / 0x100 % 256, n % 256].map Decimal.digitsOf)

/-! ## Version 6 -/

/-- The pieces of an address of version 6 that have been read, last one first, and how many of them
stand in front of the gap, if there is one. -/
structure Ipv6Draft where
  pieces : List Nat
  gap : Option Nat

/-- The whole address: the gap stands for as many zeros as are missing. -/
def Ipv6Draft.finish? (d : Ipv6Draft) : Option (List Nat) :=
  let pieces := d.pieces.reverse
  match d.gap with
  | none => if pieces.length = 8 then some pieces else none
  | some k => some (pieces.take k ++ List.replicate (8 - pieces.length) 0 ++ pieces.drop k)

/-- A number from 0 to 255 without leading zeros, and the rest of the text. -/
def ipv6Octet? (cs : List Char) : Option (Nat × List Char) :=
  let digits := cs.takeWhile Char.isDigit
  match digits with
  | [] => none
  | '0' :: _ :: _ => none
  | _ =>
      let n := digits.foldl (fun n c => n * 10 + (c.toNat - 48)) 0
      if n ≤ 255 then some (n, cs.drop digits.length) else none

/-- The two pieces that an address of version 4 at the end of one of version 6 makes. -/
def ipv6Tail? (cs : List Char) : Option (Nat × Nat) := do
  let point (cs : List Char) : Option (List Char) := ['.'].isPrefixOf? cs
  let (a, cs) ← ipv6Octet? cs
  let (b, cs) ← ipv6Octet? (← point cs)
  let (c, cs) ← ipv6Octet? (← point cs)
  let (d, cs) ← ipv6Octet? (← point cs)
  if cs.isEmpty then some (a * 256 + b, c * 256 + d) else none

/-- Reads the pieces of an address of version 6. -/
def ipv6Pieces? : Nat → Ipv6Draft → List Char → Option (List Nat)
  | 0, _, _ => none
  | _ + 1, d, [] => d.finish?
  | fuel + 1, d, c :: cs =>
      if 8 ≤ d.pieces.length then none
      else if c = ':' then
        if d.gap.isSome then none
        else ipv6Pieces? fuel ⟨0 :: d.pieces, some (d.pieces.length + 1)⟩ cs
      else
        let digits := ((c :: cs).take 4).takeWhile fun c => (hexValue? c).isSome
        let piece := (numberIn? 16 digits).getD 0
        match (c :: cs).drop digits.length with
        | [] => ipv6Pieces? fuel ⟨piece :: d.pieces, d.gap⟩ []
        | '.' :: _ =>
            if digits.isEmpty ∨ 6 < d.pieces.length then none
            else
              match ipv6Tail? (c :: cs) with
              | some (a, b) => Ipv6Draft.finish? ⟨b :: a :: d.pieces, d.gap⟩
              | none => none
        | ':' :: rest =>
            if rest.isEmpty then none else ipv6Pieces? fuel ⟨piece :: d.pieces, d.gap⟩ rest
        | _ => none

/-- An address of version 6. -/
def ipv6? (cs : List Char) : Option (List Nat) :=
  match cs with
  | ':' :: ':' :: rest => ipv6Pieces? (rest.length + 1) ⟨[0], some 1⟩ rest
  | ':' :: _ => none
  | _ :: _ :: _ => ipv6Pieces? (cs.length + 1) ⟨[], none⟩ cs
  | _ => none

/-- The digits of a number in base 16, as they are written in an address. -/
def lowerHex (n : Nat) : List Char := Nat.toDigits 16 n

/-- The place and the length of the longest run of zeros, the first of several. -/
def longestZeros : (place : Nat) → List Nat → Nat × Nat
  | _, [] => (0, 0)
  | place, n :: ns =>
      let run := ((n :: ns).takeWhile (· == 0)).length
      let (start, length) := longestZeros (place + 1) ns
      if length ≤ run then (place, run) else (start, length)

/-- An address of version 6 as it is written: two colons stand for the longest run of at least two
zeros. -/
def writeIpv6 (pieces : List Nat) : List Char :=
  let (start, length) := longestZeros 0 pieces
  let part (ns : List Nat) : List Char := [':'].intercalate (ns.map lowerHex)
  if 2 ≤ length then part (pieces.take start) ++ "::".toList ++ part (pieces.drop (start + length))
  else part pieces

/-! ## Reading and writing -/

/-- A host as it is written. -/
def Host.write : Host → List Char
  | .name text => text
  | .ipv4 n => writeIpv4 n
  | .ipv6 pieces => '[' :: writeIpv6 pieces ++ [']']

/-- The address in brackets that a host is. -/
def bracketedHost (inside : List Char) : Except ParseFault Host :=
  match inside.getLast? with
  | some ']' =>
      match ipv6? inside.dropLast with
      | some pieces => .ok (.ipv6 pieces)
      | none => .error .badIpv6
  | _ => .error .badIpv6

/-- Reads a host of the common schemes. -/
def Host.read (cs : List Char) : Except ParseFault Host :=
  match cs with
  | '[' :: rest => bracketedHost rest
  | _ =>
      match Text.decodeOctets (percentDecode cs) with
      | .error _ => .error .badName
      | .ok decoded =>
          match asciiName? decoded with
          | none => .error .badName
          | some [] => .error .emptyHost
          | some domain =>
              if endsInNumber domain then
                match ipv4? domain with
                | some n => .ok (.ipv4 n)
                | none => .error .badIpv4
              else .ok (.name domain)

/-- The characters that no host may have. -/
def isHostBreak (c : Char) : Bool :=
  c.toNat = 0 || "\t\n\r #/:<>?@[\\]^|".toList.contains c

/-- Reads a host of other schemes. -/
def Host.readOpaque (cs : List Char) : Except ParseFault Host :=
  match cs with
  | '[' :: rest => bracketedHost rest
  | _ =>
      if cs.any isHostBreak then .error .badCharacter
      else .ok (.name (percentEncode isControl cs))

end Url
end LinkLedger

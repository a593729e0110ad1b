import LinkLedger.Text.Utf8

/-!
# Octets as percent signs with digits

What may not stand in a part of a URL is written octet by octet, each as a percent sign with two
digits in base 16.
-/

namespace LinkLedger
namespace Url

/-- The octets of a character. -/
def octetsOf (c : Char) : List UInt8 := String.utf8EncodeChar c

/-- A digit in base 16 as it is written. -/
def hexChar (n : Nat) : Char :=
  if n < 10 then Char.ofNat (48 + n) else Char.ofNat (55 + n)

/-- An octet as a percent sign with two digits. -/
def percentOctet (b : UInt8) : List Char :=
  ['%', hexChar (b.toNat / 16), hexChar (b.toNat % 16)]

/-- A text with the characters outside of ASCII, and those that `p` names, written by their
octets. -/
def percentEncode (p : Char → Bool) (cs : List Char) : List Char :=
  cs.flatMap fun c =>
    if 128 ≤ c.toNat ∨ p c = true then (octetsOf c).flatMap percentOctet else [c]

/-- The value of a digit in base 16. -/
def hexValue? (c : Char) : Option Nat :=
  let n := c.toNat
  if 48 ≤ n ∧ n ≤ 57 then some (n - 48)
  else if 65 ≤ n ∧ n ≤ 70 then some (n - 55)
  else if 97 ≤ n ∧ n ≤ 102 then some (n - 87)
  else none

/-- The octets of a text, those written with percent signs included. -/
def percentDecode : List Char → List UInt8
  | [] => []
  | '%' :: a :: b :: cs =>
      match hexValue? a, hexValue? b with
      | some x, some y => UInt8.ofNat (16 * x + y) :: percentDecode cs
      | _, _ => 37 :: percentDecode (a :: b :: cs)
  | c :: cs => octetsOf c ++ percentDecode cs

/-! ## What is encoded where -/

/-- Control characters. -/
def isControl (c : Char) : Bool := c.toNat < 32 || c.toNat = 127

/-- What is encoded in fragments. -/
def inFragment (c : Char) : Bool := isControl c || " \"<>\x60".toList.contains c

/-- What is encoded in queries. -/
def inQuery (c : Char) : Bool := isControl c || " \"#<>".toList.contains c

/-- What is encoded in queries of the common schemes. -/
def inCommonQuery (c : Char) : Bool := inQuery c || c = '\''

/-- What is encoded in paths. -/
def inPath (c : Char) : Bool := inFragment c || "#?\x7b\x7d^".toList.contains c

/-- What is encoded in the names and passwords of users. -/
def inUser (c : Char) : Bool := inPath c || "/:;=@[\\]^|".toList.contains c

end Url
end LinkLedger

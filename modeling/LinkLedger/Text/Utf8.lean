/-!
# Octets as text

UTF-8 is read octet by octet.  The reader refuses an octet sequence at the first octet that no
continuation could repair, and says where the offending character starts and how many octets of it
were still acceptable.
-/

namespace LinkLedger
namespace Text

/-- Why octets are not text: where the bad character starts, and the number of octets that form
its longest acceptable beginning (`none` when the octets end inside the character). -/
structure Utf8Fault where
  start : Nat
  length : Option Nat
  deriving DecidableEq, Repr

/-- The wording of a fault. -/
def Utf8Fault.message (fault : Utf8Fault) : String :=
  match fault.length with
  | some n => s!"invalid utf-8 sequence of {n} bytes from index {fault.start}"
  | none => s!"incomplete utf-8 byte sequence from index {fault.start}"

/-- A character whose first octets have been read: how many, how many are still owed, the bounds
of the next one, and the value so far. -/
structure PartialChar where
  seen : Nat
  owed : Nat
  low : Nat
  high : Nat
  value : Nat

/-- The state after the first octet of a character of more than one octet. -/
def PartialChar.begin? (b : Nat) : Option PartialChar :=
  if 0xC2 ≤ b ∧ b ≤ 0xDF then some ⟨1, 1, 0x80, 0xBF, b - 0xC0⟩
  else if b = 0xE0 then some ⟨1, 2, 0xA0, 0xBF, 0⟩
  else if b = 0xED then some ⟨1, 2, 0x80, 0x9F, b - 0xE0⟩
  else if 0xE1 ≤ b ∧ b ≤ 0xEF then some ⟨1, 2, 0x80, 0xBF, b - 0xE0⟩
  else if b = 0xF0 then some ⟨1, 3, 0x90, 0xBF, 0⟩
  else if 0xF1 ≤ b ∧ b ≤ 0xF3 then some ⟨1, 3, 0x80, 0xBF, b - 0xF0⟩
  else if b = 0xF4 then some ⟨1, 3, 0x80, 0x8F, 4⟩
  else none

/-- The state after one more octet within the bounds. -/
def PartialChar.push (c : PartialChar) (b : Nat) : PartialChar :=
  ⟨c.seen + 1, c.owed - 1, 0x80, 0xBF, c.value * 64 + (b - 0x80)⟩

/-- Reads octets, from a position between two characters (`none`) or inside one. -/
def decodeOctetsAt (start : Nat) : Option PartialChar → List UInt8 → Except Utf8Fault (List Char)
  | none, [] => .ok []
  | some _, [] => .error ⟨start, none⟩
  | none, b :: bs =>
      if b.toNat < 0x80 then
        (decodeOctetsAt (start + 1) none bs).map (Char.ofNat b.toNat :: ·)
      else
        match PartialChar.begin? b.toNat with
        | none => .error ⟨start, some 1⟩
        | some c => decodeOctetsAt start (some c) bs
  | some c, b :: bs =>
      if c.low ≤ b.toNat ∧ b.toNat ≤ c.high then
        let c' := c.push b.toNat
        if c'.owed = 0 then
          (decodeOctetsAt (start + c'.seen) none bs).map (Char.ofNat c'.value :: ·)
        else decodeOctetsAt start (some c') bs
      else .error ⟨start, some c.seen⟩

/-- The text that octets spell in UTF-8. -/
def decodeOctets (bytes : List UInt8) : Except Utf8Fault (List Char) :=
  decodeOctetsAt 0 none bytes

end Text
end LinkLedger

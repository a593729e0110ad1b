import LinkLedger.Text.NormalTable
import Std.Data.HashMap

/-!
# Composed text

Unicode's normalization form C: characters are taken apart, combining ones are put in the order of
their classes, and what belongs together is put together again.
-/

namespace LinkLedger
namespace Text

/-! ## Hangul syllables -/

/-- The number of a syllable that is composed of three parts. -/
def syllable (lead vowel tail : Nat) : Nat :=
  0xAC00 + (lead * 21 + vowel) * 28 + tail

/-- The parts of a syllable. -/
def syllableParts? (n : Nat) : Option (List Nat) :=
  if 0xAC00 ≤ n ∧ n ≤ 0xD7A3 then
    let s := n - 0xAC00
    let tail := s % 28
    some ([0x1100 + s / 588, 0x1161 + s % 588 / 28] ++ if tail = 0 then [] else [0x11A7 + tail])
  else none

/-- The syllable that two parts, or a syllable without a tail and a tail, make. -/
def joinSyllable? (a b : Nat) : Option Nat :=
  if 0x1100 ≤ a ∧ a < 0x1113 ∧ 0x1161 ≤ b ∧ b < 0x1176 then
    some (syllable (a - 0x1100) (b - 0x1161) 0)
  else if 0xAC00 ≤ a ∧ a ≤ 0xD7A3 ∧ (a - 0xAC00) % 28 = 0 ∧ 0x11A7 < b ∧ b < 0x11C3 then
    some (a + (b - 0x11A7))
  else none

/-! ## Taking apart -/

/-- The longest chain of decompositions. -/
def decompositionDepth : Nat := 8

/-- A character taken apart as far as syllables and a map of single steps go. -/
def takenApart (image? : Char → Option (List Char)) : Nat → Char → List Char
  | 0, c => [c]
  | depth + 1, c =>
      match syllableParts? c.toNat with
      | some parts => parts.map Char.ofNat
      | none =>
          match image? c with
          | some parts => parts.flatMap (takenApart image? depth)
          | none => [c]

/-- A character taken apart as far as possible. -/
def decomposed (c : Char) : List Char := takenApart decompositions.image? decompositionDepth c

/-- The combining class of a character. -/
def combiningClass (c : Char) : Nat :=
  (combiningClasses.value? c).getD 0

/-- Puts a run of combining characters, which starts a text, in the order of their classes. -/
def sortMarks (cs : List Char) : List Char :=
  cs.mergeSort fun a b => combiningClass a ≤ combiningClass b

/-- A text with every run of combining characters in order; `marks` is the current run, last
character first. -/
def orderMarks (marks : List Char) : List Char → List Char
  | [] => sortMarks marks.reverse
  | c :: cs =>
      if combiningClass c = 0 then sortMarks marks.reverse ++ c :: orderMarks [] cs
      else orderMarks (c :: marks) cs

/-! ## Putting together -/

/-- Enters the pair that a decomposition gives, unless it is excluded. -/
def enterPair (table : Std.HashMap Nat Nat) (r : Run) : Std.HashMap Nat Nat :=
  match r.image with
  | [a, b] =>
      if compositionExclusions.has (Char.ofNat r.first) then table
      else table.insert (a * 0x110000 + b) r.first
  | _ => table

/-- The code points that two others make, by the pair as one number. -/
def compositions : Std.HashMap Nat Nat := decompositions.runs.foldl enterPair ∅

/-- The character that two others make. -/
def joined? (a b : Char) : Option Char :=
  match joinSyllable? a.toNat b.toNat with
  | some n => some (Char.ofNat n)
  | none => compositions[a.toNat * 0x110000 + b.toNat]?.map Char.ofNat

/-- Puts a starter together with what follows it.  `kept` are the characters behind it that stay as
they are, last one first, and `last` is the class of the last of them. -/
def composeWith (starter : Char) (kept : List Char) (last : Nat) : List Char → List Char
  | [] => starter :: kept.reverse
  | c :: cs =>
      let k := combiningClass c
      let blocked : Bool := !kept.isEmpty && (last == 0 || k ≤ last)
      match if blocked then none else joined? starter c with
      | some d => composeWith d kept last cs
      | none =>
          if k = 0 then starter :: kept.reverse ++ composeWith c [] 0 cs
          else composeWith starter (c :: kept) k cs

/-- Puts the characters of an ordered text together. -/
def compose : List Char → List Char
  | [] => []
  | c :: cs => if combiningClass c = 0 then composeWith c [] 0 cs else c :: compose cs

/-- The composed form of a text. -/
def composed (cs : List Char) : List Char :=
  if cs.all fun c => c.toNat < 0x300 then cs
  else compose (orderMarks [] (cs.flatMap decomposed))

end Text
end LinkLedger

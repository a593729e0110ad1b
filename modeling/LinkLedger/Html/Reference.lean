import LinkLedger.Html.Entity

/-!
# Character references

A reference starts with an ampersand and stands for one or two characters, by name or by number.
An ampersand that starts no reference stands for itself.
-/

namespace LinkLedger
namespace Html

/-- The character that stands in for one that cannot. -/
def replacement : Char := '\ufffd'

/-- What the numbers from 128 to 159 stand for; 0 marks those that stand for themselves. -/
def windowsCharacters : List Nat :=
  [0x20AC, 0, 0x201A, 0x0192, 0x201E, 0x2026, 0x2020, 0x2021, 0x02C6, 0x2030, 0x0160, 0x2039,
    0x0152, 0, 0x017D, 0, 0, 0x2018, 0x2019, 0x201C, 0x201D, 0x2022, 0x2013, 0x2014, 0x02DC,
    0x2122, 0x0161, 0x203A, 0x0153, 0, 0x017E, 0x0178]

/-- The character that a number stands for. -/
def numberedCharacter (n : Nat) : Char :=
  if n = 0 ∨ n > 0x10FFFF ∨ (0xD800 ≤ n ∧ n ≤ 0xDFFF) then replacement
  else if 0x80 ≤ n ∧ n ≤ 0x9F then
    match windowsCharacters[n - 0x80]? with
    | some (m + 1) => Char.ofNat (m + 1)
    | _ => Char.ofNat n
  else Char.ofNat n

/-- The value of a digit in base 16. -/
def hexDigit? (c : Char) : Option Nat :=
  let n := c.toNat
  if 48 ≤ n ∧ n ≤ 57 then some (n - 48)
  else if 97 ≤ n ∧ n ≤ 102 then some (n - 87)
  else if 65 ≤ n ∧ n ≤ 70 then some (n - 55)
  else none

/-- The number that digits in base 16 spell. -/
def hexNumber (digits : List Char) : Nat :=
  digits.foldl (fun n c => n * 16 + (hexDigit? c).getD 0) 0

/-- The number that digits in base 10 spell. -/
def decimalNumber (digits : List Char) : Nat :=
  digits.foldl (fun n c => n * 10 + (c.toNat - 48)) 0

/-- A text behind a semicolon that it may start with. -/
def skipSemicolon : List Char → List Char
  | ';' :: rest => rest
  | cs => cs

/-- Reads a reference by number, from behind `#`. -/
def readNumbered (cs : List Char) : Option (List Char × List Char) :=
  let hex (r : List Char) : Option (List Char × List Char) :=
    let digits := r.takeWhile fun c => (hexDigit? c).isSome
    if digits.isEmpty then none
    else some ([numberedCharacter (hexNumber digits)],
      skipSemicolon (r.dropWhile fun c => (hexDigit? c).isSome))
  match cs with
  | 'x' :: r => hex r
  | 'X' :: r => hex r
  | _ =>
      let digits := cs.takeWhile Char.isDigit
      if digits.isEmpty then none
      else some ([numberedCharacter (decimalNumber digits)],
        skipSemicolon (cs.dropWhile Char.isDigit))

/-- Reads a reference by name.  In the value of an attribute, a name without a semicolon stands for
itself when a letter, a digit or an equals sign follows. -/
def readNamed (inValue : Bool) (cs : List Char) : Option (List Char × List Char) :=
  let run := cs.takeWhile Char.isAlphanum
  let closed :=
    match cs.dropWhile Char.isAlphanum with
    | ';' :: rest => (entity? run).map fun e => (e.characters, rest)
    | _ => none
  match closed with
  | some r => some r
  | none =>
      match bareEntity? run (min run.length 6) with
      | none => none
      | some (e, behind) =>
          let rest := cs.drop (run.length - behind.length)
          let refused :=
            inValue &&
              match rest with
              | c :: _ => c = '=' || c.isAlphanum
              | [] => false
          if refused then none else some (e.characters, rest)

/-- Reads what an ampersand starts: the characters and the text behind, `none` if it stands for
itself. -/
def readReference (inValue : Bool) (cs : List Char) : Option (List Char × List Char) :=
  match cs with
  | '#' :: r => readNumbered r
  | _ => readNamed inValue cs

end Html
end LinkLedger

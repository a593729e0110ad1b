import LinkLedger.Html.Reference

/-!
# Scanning Markdown

Small scanners on the text from a place on.  They tell how many characters belong to what they look
for.
-/

namespace LinkLedger
namespace Markdown

/-! ## Characters -/

/-- Blanks within a line. -/
def isInnerBlank (c : Char) : Bool :=
  c = ' ' || c = '\t' || c.toNat = 11 || c.toNat = 12

/-- Blanks and line ends. -/
def isBlank (c : Char) : Bool :=
  c = ' ' || (9 ≤ c.toNat && c.toNat ≤ 13)

/-- The punctuation that a backslash can take the meaning from. -/
def isPunctuation (c : Char) : Bool :=
  let n := c.toNat
  (33 ≤ n && n ≤ 47) || (58 ≤ n && n ≤ 64) || (91 ≤ n && n ≤ 96) || (123 ≤ n && n ≤ 126)

/-- The number of characters at the start of a text that satisfy `p`. -/
def countWhile (p : Char → Bool) (cs : List Char) : Nat :=
  (cs.takeWhile p).length

/-- The number of repetitions of a character at the start of a text. -/
def countChar (c : Char) (cs : List Char) : Nat :=
  countWhile (· == c) cs

/-! ## Lines -/

/-- The length of the line end that a text starts with; the end of the text is one, of length 0. -/
def lineEnd? : List Char → Option Nat
  | [] => some 0
  | '\n' :: _ => some 1
  | '\r' :: '\n' :: _ => some 2
  | '\r' :: _ => some 1
  | _ => none

/-- The length of the blank rest of a line with its end. -/
def blankLine? (cs : List Char) : Option Nat :=
  let n := countWhile isInnerBlank cs
  (lineEnd? (cs.drop n)).map (n + ·)

/-- Whether the rest of the line is blank. -/
def isBlankLine (cs : List Char) : Bool :=
  (blankLine? cs).isSome

/-- The length of a line with its line feed. -/
def lineLength (cs : List Char) : Nat :=
  match cs.dropWhile (· != '\n') with
  | [] => cs.length
  | _ :: _ => countWhile (· != '\n') cs + 1

/-! ## Starts of blocks -/

/-- The length of a line of at least three equal marks with blanks between them. -/
def rule? (cs : List Char) : Option Nat :=
  match cs with
  | c :: _ =>
      if (c = '*' ∨ c = '-' ∨ c = '_') ∧ 3 ≤ cs.length then marks c 0 0 cs else none
  | [] => none
where
  /-- Goes through the line; `n` marks and `i` characters have been read. -/
  marks (c : Char) (n i : Nat) : List Char → Option Nat
    | [] => if 3 ≤ n then some i else none
    | d :: ds =>
        if d = '\n' ∨ d = '\r' then
          if 3 ≤ n then some (i + (lineEnd? (d :: ds)).getD 0) else none
        else if d = c then marks c (n + 1) (i + 1) ds
        else if d = ' ' ∨ d = '\t' then marks c n (i + 1) ds
        else none

/-- The level of the heading that a line of number signs starts. -/
def headingLevel? (cs : List Char) : Option Nat :=
  let level := countChar '#' cs
  if 1 ≤ level ∧ level ≤ 6 ∧ ((cs.drop level).head?.all isBlank) = true then some level else none

/-- The length and the mark of a fence of code. -/
def fence? (cs : List Char) : Option (Nat × Char) :=
  match cs with
  | [] => none
  | c :: _ =>
      let n := countChar c cs
      if (c = '\x60' ∨ c = '~') ∧ 3 ≤ n then
        let rest := cs.drop n
        if c = '\x60' ∧ (rest.take (lineLength rest)).contains '\x60' then none else some (n, c)
      else none

/-- The length of the line that closes a fence, without its end. -/
def closingFence? (mark : Char) (length : Nat) (cs : List Char) : Option Nat :=
  if cs.isEmpty then some 0
  else
    let n := countChar mark cs
    if n < length then none
    else
      let spaces := countChar ' ' (cs.drop n)
      (lineEnd? (cs.drop (n + spaces))).map fun _ => n + spaces

/-- The length of the underline of a heading, with the line end. -/
def underline? (cs : List Char) : Option Nat :=
  match cs with
  | [] => none
  | c :: _ =>
      if c = '=' ∨ c = '-' then
        let n := countChar c cs
        (blankLine? (cs.drop n)).map (n + ·)
      else none

/-- The marker of an item that a text starts with: its length, its mark and its number. -/
def itemStart? (cs : List Char) : Option (Nat × Char × Nat) :=
  match cs with
  | [] => none
  | c :: _ =>
      if c = '-' ∨ c = '+' ∨ c = '*' then marked 1 c 0
      else if c.isDigit then
        let digits := cs.takeWhile Char.isDigit
        match cs.drop digits.length with
        | d :: _ =>
            if d = '.' ∨ d = ')' then marked (digits.length + 1) d (Html.decimalNumber digits)
            else none
        | [] => none
      else none
where
  /-- The marker, if a blank or the end of the line follows it. -/
  marked (length : Nat) (mark : Char) (number : Nat) : Option (Nat × Char × Nat) :=
    match cs.drop length with
    | ' ' :: _ => some (length, mark, number)
    | '\t' :: _ => some (length, mark, number)
    | rest => (lineEnd? rest).map fun _ => (length, mark, number)

/-- Whether two blank lines start a text. -/
def twoBlankLines (cs : List Char) : Bool :=
  match blankLine? cs with
  | some n => isBlankLine (cs.drop n)
  | none => false

/-! ## Character references and escapes -/

/-- The character of a reference by number, for numbers that are those of characters. -/
def referenceCharacter? (n : Nat) : Option Char :=
  if n = 0 then some Html.replacement
  else if n ≤ 0x10FFFF ∧ ¬(0xD800 ≤ n ∧ n ≤ 0xDFFF) then some (Char.ofNat n)
  else none

/-- The length and the characters of the reference that a text starts with, from its ampersand. -/
def reference? (cs : List Char) : Option (Nat × List Char) :=
  let numbered (start : Nat) (digits : List Char) (n : Nat) : Option (Nat × List Char) :=
    if digits.isEmpty then none
    else
      match cs.drop (start + digits.length) with
      | ';' :: _ => (referenceCharacter? n).map fun c => (start + digits.length + 1, [c])
      | _ => none
  match cs.drop 1 with
  | '#' :: x :: rest =>
      if x = 'x' ∨ x = 'X' then
        let digits := rest.takeWhile fun c => (Html.hexDigit? c).isSome
        numbered 3 digits (Html.hexNumber digits)
      else
        let digits := (x :: rest).takeWhile Char.isDigit
        numbered 2 digits (Html.decimalNumber digits)
  | rest =>
      let name := rest.takeWhile Char.isAlphanum
      match rest.drop name.length with
      | ';' :: _ => (Html.entity? name).map fun e => (name.length + 2, e.characters)
      | _ => none

/-- A text with the characters that its escapes and references stand for, and without carriage
returns; `fuel` bounds its length. -/
def unescape : Nat → List Char → List Char
  | 0, cs => cs
  | _ + 1, [] => []
  | fuel + 1, c :: cs =>
      if c = '\\' then
        match cs with
        | d :: ds => if isPunctuation d then d :: unescape fuel ds else c :: unescape fuel cs
        | [] => [c]
      else if c = '&' then
        match reference? (c :: cs) with
        | some (n, chars) => chars ++ unescape fuel ((c :: cs).drop n)
        | none => c :: unescape fuel cs
      else if c = '\r' then unescape fuel cs
      else c :: unescape fuel cs

end Markdown
end LinkLedger

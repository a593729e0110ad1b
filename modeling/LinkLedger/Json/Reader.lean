import LinkLedger.Json.Basic

/-!
# Reading the text of a document

The reader goes through the text once.  It stops at the first fault and returns what it has read,
with the fault in its place; after a complete document it also returns the rest of the text.
`fuel` bounds the depth of the calls and is taken from the length of the text.
-/

namespace LinkLedger
namespace Json

/-- The characters between the parts of a document. -/
def isSpace (c : Char) : Bool :=
  c = ' ' || c = '\n' || c = '\t' || c = '\r'

/-- The text behind leading spaces. -/
def skipSpace (cs : List Char) : List Char :=
  cs.dropWhile isSpace

/-- A reading that ends at a fault of one kind. -/
def stopped (f : Fault) : Reading × Option (List Char) :=
  (.broken f f, none)

/-- A number or a literal that goes wrong behind its first character. -/
def stoppedWord (wanted skipped : Fault) : Reading × Option (List Char) :=
  (.brokenWord wanted skipped, none)

/-- Reads the rest `word` of a literal. -/
def readWord (value : Reading) : List Char → List Char → Reading × Option (List Char)
  | [], cs => (value, some cs)
  | _ :: _, [] => stoppedWord .truncated .truncated
  | w :: ws, c :: cs =>
      if w = c then readWord value ws cs else stoppedWord .malformed .malformed

/-! ## Texts -/

/-- What is read of a text between quotation marks: its characters and the rest behind it, a
complete text with an unpaired surrogate, or a fault. -/
inductive Quoted where
  | ok (s : List Char) (rest : List Char)
  | unpaired (rest : List Char)
  | broken (wanted skipped : Fault)

/-- Puts a character in front of what is read. -/
def Quoted.cons (c : Char) : Quoted → Quoted
  | .ok s rest => .ok (c :: s) rest
  | q => q

/-- Marks what is read as holding an unpaired surrogate: of no use to a reader that wants it. -/
def Quoted.flaw : Quoted → Quoted
  | .ok _ rest => .unpaired rest
  | .unpaired rest => .unpaired rest
  | .broken _ skipped => .broken .malformed skipped

/-- The value of a hexadecimal digit. -/
def hexValue? (c : Char) : Option Nat :=
  let n := c.toNat
  if 48 ≤ n ∧ n ≤ 57 then some (n - 48)
  else if 97 ≤ n ∧ n ≤ 102 then some (n - 87)
  else if 65 ≤ n ∧ n ≤ 70 then some (n - 55)
  else none

/-- The number that four hexadecimal digits at the front spell, and the rest.  Fewer than four
octets of text left count as its end. -/
def readHex4 (cs : List Char) : Except Fault (Nat × List Char) :=
  if (String.ofList (cs.take 4)).utf8ByteSize < 4 then .error .truncated
  else
    match cs with
    | a :: b :: c :: d :: rest =>
        match hexValue? a, hexValue? b, hexValue? c, hexValue? d with
        | some a, some b, some c, some d => .ok (((a * 16 + b) * 16 + c) * 16 + d, rest)
        | _, _, _, _ => .error .malformed
    | _ => .error .malformed

/-- The character that a short escape stands for. -/
def shortEscape? (c : Char) : Option Char :=
  match c with
  | '"' => some '"'
  | '\\' => some '\\'
  | '/' => some '/'
  | 'b' => some (Char.ofNat 8)
  | 'f' => some (Char.ofNat 12)
  | 'n' => some '\n'
  | 'r' => some '\r'
  | 't' => some '\t'
  | _ => none

/-- Whether a number is the first half of a surrogate pair. -/
def isLead (n : Nat) : Bool := 0xD800 ≤ n && n ≤ 0xDBFF

/-- Whether a number is the second half of a surrogate pair. -/
def isTrail (n : Nat) : Bool := 0xDC00 ≤ n && n ≤ 0xDFFF

/-- Reads the characters of a text up to its closing quotation mark. -/
def readQuoted : Nat → List Char → Quoted
  | 0, _ => .broken .malformed .malformed
  | _ + 1, [] => .broken .truncated .truncated
  | fuel + 1, c :: cs =>
      if c = '"' then .ok [] cs
      else if c = '\\' then
        match cs with
        | [] => .broken .truncated .truncated
        | 'u' :: cs' =>
            match readHex4 cs' with
            | .error f => .broken f f
            | .ok (n, rest) =>
                if isTrail n then (readQuoted fuel rest).flaw
                else if isLead n then
                  match rest with
                  | [] => .broken .truncated .truncated
                  | '\\' :: [] => .broken .truncated .truncated
                  | '\\' :: 'u' :: rest' =>
                      match readHex4 rest' with
                      | .error f => .broken f f
                      | .ok (m, rest'') =>
                          if isTrail m then
                            (readQuoted fuel rest'').cons
                              (Char.ofNat (0x10000 + (n - 0xD800) * 0x400 + (m - 0xDC00)))
                          else (readQuoted fuel rest).flaw
                  | _ => (readQuoted fuel rest).flaw
                else (readQuoted fuel rest).cons (Char.ofNat n)
        | e :: cs' =>
            match shortEscape? e with
            | some d => (readQuoted fuel cs').cons d
            | none => .broken .malformed .malformed
      else if c.toNat < 0x20 then .broken .malformed .malformed
      else (readQuoted fuel cs).cons c

/-! ## Numbers -/

/-- Reads the digits of a number from its first digit on. -/
def readDigits (cs : List Char) : List Char × List Char :=
  (cs.takeWhile Char.isDigit, cs.dropWhile Char.isDigit)

/-- A number that lacks digits: cut off by the end of the text for a reader that wants it, and
wrong for one that skips it. -/
def missingDigits (rest : List Char) : Reading × Option (List Char) :=
  match rest with
  | [] => stoppedWord .truncated .malformed
  | _ :: _ => stoppedWord .malformed .malformed

/-- Reads the exponent of a number. -/
def readPower (negative : Bool) (whole fraction : List Char) (cs : List Char) :
    Reading × Option (List Char) :=
  match cs with
  | [] => (.number ⟨negative, whole, fraction, none⟩, some [])
  | c :: r =>
      if c = 'e' ∨ c = 'E' then
        let (down, r') :=
          match r with
          | '-' :: r' => (true, r')
          | '+' :: r' => (false, r')
          | _ => (false, r)
        let (digits, rest) := readDigits r'
        if digits.isEmpty then missingDigits rest
        else (.number ⟨negative, whole, fraction, some (down, digits)⟩, some rest)
      else (.number ⟨negative, whole, fraction, none⟩, some cs)

/-- Reads a number behind its sign. -/
def readNumber (negative : Bool) (cs : List Char) : Reading × Option (List Char) :=
  let (whole, rest) := readDigits cs
  match whole with
  | [] => missingDigits rest
  | '0' :: _ :: _ => stoppedWord .malformed .malformed
  | _ =>
      match rest with
      | '.' :: r =>
          let (fraction, rest') := readDigits r
          if fraction.isEmpty then missingDigits rest'
          else readPower negative whole fraction rest'
      | _ => readPower negative whole [] rest

/-! ## Values -/

mutual

/-- Reads a value.  The second part is the rest of the text, `none` once the reader has stopped. -/
def readValue : Nat → List Char → Reading × Option (List Char)
  | 0, _ => stopped .malformed
  | fuel + 1, cs =>
      match skipSpace cs with
      | [] => stopped .truncated
      | c :: r =>
          if c = '"' then
            match readQuoted (r.length + 1) r with
            | .ok s rest => (.text (String.ofList s), some rest)
            | .unpaired rest => (.unpaired, some rest)
            | .broken wanted skipped => (.broken wanted skipped, none)
          else if c = '[' then
            let (items, stop, rest) := readItems fuel true r
            (.list items stop, rest)
          else if c = '\x7b' then
            let (entries, stop, rest) := readEntries fuel true r
            (.fields entries stop, rest)
          else if c = '-' then readNumber true r
          else if c.isDigit then readNumber false (c :: r)
          else if c = 'n' then readWord .null "ull".toList r
          else if c = 't' then readWord (.bool true) "rue".toList r
          else if c = 'f' then readWord (.bool false) "alse".toList r
          else stopped .malformed

/-- Reads the items of a list, from behind the opening bracket or behind an item. -/
def readItems : Nat → Bool → List Char → List Reading × Stop × Option (List Char)
  | 0, _, _ => ([], .broken .malformed .malformed, none)
  | fuel + 1, first, cs =>
      match skipSpace cs with
      | [] => ([], .broken .truncated .truncated, none)
      | ']' :: rest => ([], .closed, some rest)
      | c :: r =>
          if first then readItem fuel (c :: r)
          else if c = ',' then
            match skipSpace r with
            | [] => ([], .brokenAfterComma .truncated .truncated, none)
            | ']' :: _ => ([], .brokenAfterComma .malformed .malformed, none)
            | r' => readItem fuel r'
          else ([], .broken .malformed .malformed, none)

/-- Reads one item and those behind it. -/
def readItem : Nat → List Char → List Reading × Stop × Option (List Char)
  | 0, _ => ([], .broken .malformed .malformed, none)
  | fuel + 1, cs =>
      match readValue fuel cs with
      | (v, none) => ([v], .broken .malformed .malformed, none)
      | (v, some r) =>
          let (vs, stop, rest) := readItems fuel false r
          (v :: vs, stop, rest)

/-- Reads the entries of an object, from behind the opening brace or behind an entry. -/
def readEntries :
    Nat → Bool → List Char → List (Label × Reading) × Stop × Option (List Char)
  | 0, _, _ => ([], .broken .malformed .malformed, none)
  | fuel + 1, first, cs =>
      match skipSpace cs with
      | [] => ([], .broken .truncated .truncated, none)
      | '\x7d' :: rest => ([], .closed, some rest)
      | c :: r =>
          if first then readEntry fuel (c :: r)
          else if c = ',' then
            match skipSpace r with
            | [] => ([], .brokenAfterComma .truncated .truncated, none)
            | '\x7d' :: _ => ([], .brokenAfterComma .malformed .malformed, none)
            | r' => readEntry fuel r'
          else ([], .broken .malformed .malformed, none)

/-- Reads one entry, name and value, and those behind it. -/
def readEntry : Nat → List Char → List (Label × Reading) × Stop × Option (List Char)
  | 0, _ => ([], .broken .malformed .malformed, none)
  | fuel + 1, cs =>
      match cs with
      | '"' :: r =>
          match readQuoted (r.length + 1) r with
          | .ok s rest => readNamed fuel (.text (String.ofList s)) rest
          | .unpaired rest => readNamed fuel .unpaired rest
          | .broken wanted skipped => ([], .brokenAfterComma wanted skipped, none)
      | _ => ([(.absent, (readValue fuel cs).1)], .broken .malformed .malformed, none)

/-- Reads the value of an entry, from behind its name, and the entries behind it. -/
def readNamed :
    Nat → Label → List Char → List (Label × Reading) × Stop × Option (List Char)
  | 0, _, _ => ([], .broken .malformed .malformed, none)
  | fuel + 1, label, cs =>
      match skipSpace cs with
      | [] =>
          ([(label, .broken .truncated .truncated)], .broken .malformed .malformed, none)
      | ':' :: r =>
          match readValue fuel r with
          | (v, none) => ([(label, v)], .broken .malformed .malformed, none)
          | (v, some r') =>
              let (vs, stop, rest) := readEntries fuel false r'
              ((label, v) :: vs, stop, rest)
      | _ => ([(label, .broken .malformed .malformed)], .broken .malformed .malformed, none)

end

/-- What is read of a text: the document, and whether more than spaces follow it. -/
structure Scan where
  value : Reading
  trailing : Bool

/-- Reads a text as one document. -/
def scan (text : List Char) : Scan :=
  match readValue (4 * text.length + 4) text with
  | (v, none) => ⟨v, false⟩
  | (v, some rest) => ⟨v, !(skipSpace rest).isEmpty⟩

end Json
end LinkLedger

import LinkLedger.Json.Basic

/-!
# The text of a document

Documents are written without spaces, entries in their given order.  In a text, quotation mark,
backslash and control characters are escaped, the latter by their short form where there is one
and by four hexadecimal digits otherwise.
-/

namespace LinkLedger
namespace Json

/-- A lower-case hexadecimal digit. -/
def hexDigit (n : Nat) : Char :=
  if n < 10 then Char.ofNat (48 + n) else Char.ofNat (87 + n)

/-- The characters that stand for one character between quotation marks. -/
def escape (c : Char) : List Char :=
  if c = '"' then ['\\', '"']
  else if c = '\\' then ['\\', '\\']
  else if c.toNat < 0x20 then
    if c.toNat = 8 then ['\\', 'b']
    else if c.toNat = 9 then ['\\', 't']
    else if c.toNat = 10 then ['\\', 'n']
    else if c.toNat = 12 then ['\\', 'f']
    else if c.toNat = 13 then ['\\', 'r']
    else ['\\', 'u', '0', '0', hexDigit (c.toNat / 16), hexDigit (c.toNat % 16)]
  else [c]

/-- A text between quotation marks. -/
def quote (s : List Char) : List Char :=
  '"' :: (s.flatMap escape ++ ['"'])

/-- A number as it is spelled. -/
def Numeral.write (n : Numeral) : List Char :=
  (if n.negative then ['-'] else []) ++ n.whole ++
    (if n.fraction.isEmpty then [] else '.' :: n.fraction) ++
    match n.power with
    | none => []
    | some (down, digits) => 'e' :: (if down then ['-'] else []) ++ digits

mutual

/-- The text of a document. -/
def write : Json → List Char
  | .null => "null".toList
  | .bool true => "true".toList
  | .bool false => "false".toList
  | .number n => n.write
  | .text s => quote s.toList
  | .list items => '[' :: writeItems true items
  | .fields entries => '\x7b' :: writeEntries true entries

/-- The items of a list, each but the first behind a comma, and the closing bracket. -/
def writeItems (first : Bool) : List Json → List Char
  | [] => [']']
  | j :: js => (if first then [] else [',']) ++ j.write ++ writeItems false js

/-- The entries of an object, each but the first behind a comma, and the closing brace. -/
def writeEntries (first : Bool) : List (String × Json) → List Char
  | [] => ['\x7d']
  | (name, j) :: rest =>
      (if first then [] else [',']) ++ quote name.toList ++ ':' :: j.write ++
        writeEntries false rest

end

/-- The text of a document as a string. -/
def render (j : Json) : String :=
  String.ofList j.write

end Json
end LinkLedger

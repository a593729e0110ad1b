import LinkLedger.Decimal.Shortest

/-!
# Documents

`Json` is a complete document.  `Reading` is what a reader makes of a text that may break off or
go wrong: everything in front of the first fault, and the fault in its place.  Whoever walks a
reading from the front meets the faults in the order of the text, so a value of the wrong shape in
front of a broken part is noticed first.
-/

namespace LinkLedger

/-- A number as it is spelled: sign, digits in front of the point, digits after it (none without
a point), and the exponent with its sign. -/
structure Json.Numeral where
  negative : Bool
  whole : List Char
  fraction : List Char
  power : Option (Bool × List Char)
  deriving DecidableEq, Repr

/-- A document. -/
inductive Json where
  | null
  | bool (b : Bool)
  | number (n : Json.Numeral)
  | text (s : String)
  | list (items : List Json)
  | fields (entries : List (String × Json))
  deriving Repr

namespace Json

/-- The spelling of a natural number. -/
def Numeral.ofNat (n : Nat) : Numeral :=
  ⟨false, Decimal.digitsOf n, [], none⟩

/-- A natural number as a document. -/
def nat (n : Nat) : Json :=
  .number (.ofNat n)

/-- A text, or `null`. -/
def textOrNull : Option String → Json
  | none => .null
  | some s => .text s

/-- The kinds of fault in a text that is no document: something that cannot stand there, or the
end of the text. -/
inductive Fault where
  | malformed
  | truncated
  deriving DecidableEq, Repr

/-- How a list or an object ends: at its bracket, at a fault, or at a fault behind a comma.  A
fault has two kinds, for a reader that wants the value and for one that skips it. -/
inductive Stop where
  | closed
  | broken (wanted skipped : Fault)
  | brokenAfterComma (wanted skipped : Fault)
  deriving DecidableEq, Repr

/-- The name of an entry of an object: a text, a text with an unpaired surrogate, or a value that
is no text where the name should stand. -/
inductive Label where
  | text (s : String)
  | unpaired
  | absent
  deriving DecidableEq, Repr

/-- What is read of a document up to the first fault.  `brokenWord` is a number or a literal that
went wrong behind its first character, `broken` any other value that did. -/
inductive Reading where
  | null
  | bool (b : Bool)
  | number (n : Json.Numeral)
  | text (s : String)
  | unpaired
  | list (items : List Reading) (stop : Stop)
  | fields (entries : List (Label × Reading)) (stop : Stop)
  | broken (wanted skipped : Fault)
  | brokenWord (wanted skipped : Fault)
  deriving Repr

mutual

/-- A complete document as a reading without faults. -/
def Reading.ofJson : Json → Reading
  | .null => .null
  | .bool b => .bool b
  | .number n => .number n
  | .text s => .text s
  | .list items => .list (Reading.ofItems items) .closed
  | .fields entries => .fields (Reading.ofEntries entries) .closed

/-- The items of a complete list as readings. -/
def Reading.ofItems : List Json → List Reading
  | [] => []
  | j :: js => Reading.ofJson j :: Reading.ofItems js

/-- The entries of a complete object as readings. -/
def Reading.ofEntries : List (String × Json) → List (Label × Reading)
  | [] => []
  | (name, j) :: rest => (.text name, Reading.ofJson j) :: Reading.ofEntries rest

end

end Json
end LinkLedger

import LinkLedger.Markdown.Scan

/-!
# Parts of links

The address, the title and the label of a link, and addresses in angle brackets.
-/

namespace LinkLedger
namespace Markdown

/-! ## Addresses -/

/-- An address in angle brackets behind the opening one: its length with the closing bracket and its
text. -/
def bracketed? : List Char → Option (Nat × List Char)
  | [] => none
  | '\\' :: c :: cs =>
      if isPunctuation c then (bracketed? cs).map fun (n, a) => (n + 2, '\\' :: c :: a)
      else (bracketed? (c :: cs)).map fun (n, a) => (n + 1, '\\' :: a)
  | c :: cs =>
      if c = '\n' ∨ c = '\r' ∨ c = '<' then none
      else if c = '>' then some (1, [])
      else (bracketed? cs).map fun (n, a) => (n + 1, c :: a)

/-- The length of an address without brackets; `nest` parentheses are open in it, and one more may
be opened as long as they are at most `limit`. -/
def bareLength? (limit : Nat) : Nat → List Char → Option Nat
  | nest, [] => if nest = 0 then some 0 else none
  | nest, '\\' :: c :: cs =>
      if isPunctuation c then (bareLength? limit nest cs).map (2 + ·)
      else (bareLength? limit nest (c :: cs)).map (1 + ·)
  | nest, c :: cs =>
      if c.toNat ≤ 32 then if nest = 0 then some 0 else none
      else if c = '(' then
        if limit < nest then none else (bareLength? limit (nest + 1) cs).map (1 + ·)
      else if c = ')' then
        if nest = 0 then some 0 else (bareLength? limit (nest - 1) cs).map (1 + ·)
      else (bareLength? limit nest cs).map (1 + ·)

/-- The address at the start of a text: its length, brackets included, and its text. -/
def address? (limit : Nat) (cs : List Char) : Option (Nat × List Char) :=
  match cs with
  | '<' :: rest => (bracketed? rest).map fun (n, a) => (n + 1, a)
  | _ => (bareLength? limit 0 cs).map fun n => (n, cs.take n)

/-- The deepest nesting of parentheses in the address of a link. -/
def linkNesting : Nat := 5

/-- The deepest nesting of parentheses in the address of a definition. -/
def definitionNesting : Nat := 1

/-- The meaning of an address as it is written. -/
def meaning (cs : List Char) : List Char :=
  unescape (cs.length + 1) cs

/-! ## Titles of definitions -/

/-- The length of a title behind its first mark, with the closing mark.  No blank line may be in
it. -/
def titleRest? (mark : Char) : Nat → List Char → Option Nat
  | 0, _ => none
  | _ + 1, [] => none
  | fuel + 1, c :: cs =>
      if c = '\n' then
        let blanks := countWhile isTitleBlank cs
        match cs.drop blanks with
        | [] => none
        | '\n' :: _ => none
        | rest => (titleRest? mark fuel rest).map (1 + blanks + ·)
      else if c = '\\' then
        match cs with
        | [] => none
        | _ :: rest => (titleRest? mark fuel rest).map (2 + ·)
      else if c = mark then some 1
      else (titleRest? mark fuel cs).map (1 + ·)
where
  /-- The blanks that make a line of a title a blank line. -/
  isTitleBlank (c : Char) : Bool := c = ' ' || c = '\t'

/-- The length of the title at the start of a text, with its marks. -/
def title? (cs : List Char) : Option Nat :=
  match cs with
  | '\'' :: rest => (titleRest? '\'' (rest.length + 1) rest).map (1 + ·)
  | '"' :: rest => (titleRest? '"' (rest.length + 1) rest).map (1 + ·)
  | '(' :: rest => (titleRest? ')' (rest.length + 1) rest).map (1 + ·)
  | _ => none

/-! ## Labels -/

/-- The largest size of a label. -/
def labelLimit : Nat := 1000

/-- What has been read of a label: the rest of the text, the number of characters in front of it,
the label with runs of blanks as one space, last character first, its size, and whether it is
blank. -/
structure LabelScan where
  rest : List Char
  taken : Nat
  label : List Char
  size : Nat
  blank : Bool

/-- Reads a run of blanks with at most one line end in it; `margin` gives the width of the margin of
the next line, or nothing if the label cannot go on there.  `weight` is 1 for a single space. -/
def labelBlanks (margin : List Char → Option Nat) :
    Nat → (taken breaks weight : Nat) → List Char → Option (Nat × Nat × List Char)
  | 0, taken, _, weight, cs => some (taken, weight, cs)
  | _ + 1, taken, _, weight, [] => some (taken, weight, [])
  | fuel + 1, taken, breaks, weight, c :: cs =>
      if c = '\n' ∨ c = '\r' then
        if breaks = 1 then none
        else do
          let n ← lineEnd? (c :: cs)
          let rest := (c :: cs).drop n
          let m ← margin rest
          labelBlanks margin fuel (taken + n + m) 1 (weight + 2) (rest.drop m)
      else if isBlank c then
        labelBlanks margin fuel (taken + 1) breaks (weight + if c = ' ' then 1 else 2) cs
      else some (taken, weight, c :: cs)

/-- Reads a label up to its closing bracket. -/
def labelScan (margin : List Char → Option Nat) : Nat → LabelScan → Option LabelScan
  | 0, _ => none
  | fuel + 1, s =>
      if labelLimit ≤ s.size then none
      else
        match s.rest with
        | [] => none
        | '[' :: _ => none
        | ']' :: _ => some s
        | '\\' :: cs =>
            match cs with
            | [] => none
            | c :: cs =>
                labelScan margin fuel
                  ⟨cs, s.taken + 2, c :: '\\' :: s.label, s.size + 1 + c.utf8Size, false⟩
        | c :: cs =>
            if isBlank c then do
              let (n, weight, rest) ← labelBlanks margin (cs.length + 1) 0 0 0 (c :: cs)
              labelScan margin fuel
                ⟨rest, s.taken + n, ' ' :: s.label, s.size + (if 1 < weight then n else 1), s.blank⟩
            else
              labelScan margin fuel
                ⟨cs, s.taken + 1, c :: s.label, s.size + (if c.toNat < 128 then 0 else c.utf8Size),
                  false⟩

/-- The label at the start of a text behind its bracket: its length with the closing bracket, and
the label with runs of blanks as one space. -/
def labelRest? (margin : List Char → Option Nat) (cs : List Char) : Option (Nat × List Char) := do
  let s ← labelScan margin (cs.length + 1) ⟨cs, 0, [], 0, true⟩
  if s.blank then none else some (s.taken + 1, s.label.reverse)

/-! ## Addresses in angle brackets -/

/-- The length of an address with a scheme behind an opening bracket, with the closing one. -/
def uri? (cs : List Char) : Option Nat :=
  if (cs.head?.any Char.isAlpha) = true then
    let scheme := countWhile (fun c => c.isAlphanum || c = '.' || c = '-' || c = '+') cs
    if 2 ≤ scheme ∧ scheme ≤ 32 ∧ (cs.drop scheme).head? = some ':' then
      let rest := cs.drop (scheme + 1)
      let n := countWhile (fun c => !(c.toNat ≤ 32 || c = '<' || c = '>')) rest
      if (rest.drop n).head? = some '>' then some (scheme + 1 + n + 1) else none
    else none
  else none

/-- The characters in front of the at sign of a mail address. -/
def isMailbox (c : Char) : Bool :=
  c.isAlphanum || ".!#$%&'*+/=?^_\x60\x7b|\x7d~-".toList.contains c

/-- The length of the parts of a host name, behind which the closing bracket has to stand; with the
bracket. -/
def mailHost? : Nat → List Char → Option Nat
  | 0, _ => none
  | fuel + 1, cs =>
      let label := cs.takeWhile fun c => c.isAlphanum || c = '-'
      let n := label.length
      if n = 0 ∨ 63 < n ∨ label.head? = some '-' ∨ label.getLast? = some '-' then none
      else
        match cs.drop n with
        | '.' :: rest => (mailHost? fuel rest).map (n + 1 + ·)
        | '>' :: _ => some (n + 1)
        | _ => none

/-- The length of a mail address behind an opening bracket, with the closing one. -/
def mail? (cs : List Char) : Option Nat :=
  let n := countWhile isMailbox cs
  match cs.drop n with
  | '@' :: rest => if n = 0 then none else (mailHost? (rest.length + 1) rest).map (n + 1 + ·)
  | _ => none

/-- An address in angle brackets behind the opening one: its length with the closing one, and
whether it is a mail address. -/
def bracketedLink? (cs : List Char) : Option (Nat × Bool) :=
  match uri? cs with
  | some n => some (n, false)
  | none => (mail? cs).map fun n => (n, true)

end Markdown
end LinkLedger

import LinkLedger.Markdown.Scan

/-!
# The start of a line

The blanks and marks at the start of a line say which open containers go on in it.  A tab counts as
the blanks up to the next multiple of four columns, and its blanks can be used up one by one.
-/

namespace LinkLedger
namespace Markdown

/-- How far the start of a line has been read: the rest of the text, the number of characters read,
the place that tabs count from, and the blanks left over from a tab. -/
structure LineStart where
  rest : List Char
  taken : Nat
  tabStart : Nat
  left : Nat

namespace LineStart

/-- The start of a line of which nothing has been read. -/
def ofText (cs : List Char) : LineStart := ⟨cs, 0, 0, 0⟩

/-- Reads up to `n` blanks from the text; gives the number that is missing. -/
def takeBlanks (taken tabStart left : Nat) : Nat → List Char → Nat × LineStart
  | 0, cs => (0, ⟨cs, taken, tabStart, left⟩)
  | n + 1, [] => (n + 1, ⟨[], taken, tabStart, left⟩)
  | n + 1, c :: cs =>
      if c = ' ' then takeBlanks (taken + 1) tabStart left n cs
      else if c = '\t' then
        let width := 4 - (taken - tabStart) % 4
        let used := min width (n + 1)
        takeBlanks (taken + 1) (taken + 1) (width - used) (n + 1 - used) cs
      else (n + 1, ⟨c :: cs, taken, tabStart, left⟩)
termination_by _ cs => cs.length

/-- Reads up to `n` blanks; gives the number that is missing. -/
def missing (l : LineStart) (n : Nat) : Nat × LineStart :=
  let used := min l.left n
  takeBlanks l.taken l.tabStart (l.left - used) (n - used) l.rest

/-- Reads up to `n` blanks; gives the number read. -/
def takeUpTo (l : LineStart) (n : Nat) : Nat × LineStart :=
  let (m, l') := l.missing n
  (n - m, l')

/-- Reads up to `n` blanks; tells whether there were so many. -/
def takeAll (l : LineStart) (n : Nat) : Bool × LineStart :=
  let (m, l') := l.missing n
  (m == 0, l')

/-- Reads all blanks. -/
def skipBlanks (l : LineStart) : LineStart :=
  let n := countWhile (fun c => c = ' ' || c = '\t') l.rest
  ⟨l.rest.drop n, l.taken + n, l.tabStart, 0⟩

/-- Whether the line ends here. -/
def atEnd (l : LineStart) : Bool :=
  (lineEnd? l.rest).isSome

/-- Reads `n` characters. -/
def skip (l : LineStart) (n : Nat) : LineStart :=
  ⟨l.rest.drop n, l.taken + n, l.tabStart, l.left⟩

/-- Reads the mark of a quotation behind at most three blanks. -/
def quote? (l : LineStart) : Option LineStart :=
  let (_, l') := l.takeUpTo 3
  match l'.rest with
  | '>' :: _ => some ((l'.skip 1).takeUpTo 1).2
  | _ => none

/-- The indent of an item: that of its marker and, if the line goes on, up to three more blanks. -/
def itemIndent (l : LineStart) (indent : Nat) : Nat × LineStart :=
  if isBlankLine l.rest then (indent, l)
  else
    let (more, l') := l.takeUpTo 4
    if more < 4 then (indent + more, l') else (indent, l)

/-- Reads the marker of an item: its mark, its number and the indent of its content. -/
def item? (l : LineStart) : Option (Char × Nat × Nat × LineStart) :=
  let (indent, l') := l.takeUpTo 4
  if 4 ≤ indent then none
  else
    match l'.rest with
    | [] => none
    | c :: _ =>
        if c = '-' ∨ c = '+' ∨ c = '*' then
          if (rule? l'.rest).isSome then none
          else finish (l'.skip 1) c 0 (indent + 2)
        else if c.isDigit then
          let digits := (l'.rest.take 10).takeWhile Char.isDigit
          match l'.rest.drop digits.length with
          | d :: _ =>
              if digits.length ≤ 9 ∧ (d = '.' ∨ d = ')') then
                finish (l'.skip (digits.length + 1)) d (Html.decimalNumber digits)
                  (indent + 2 + digits.length)
              else none
          | [] => none
        else none
where
  /-- The marker, if a blank or the end of the line follows it. -/
  finish (l : LineStart) (mark : Char) (number indent : Nat) :
      Option (Char × Nat × Nat × LineStart) :=
    let (blank, l') := l.takeAll 1
    if blank || l'.atEnd then
      let (indent, l'') := l'.itemIndent indent
      some (mark, number, indent, l'')
    else none

end LineStart

/-! ## Containers -/

/-- What can be open around a line: a quotation, an item with the indent of its content, or
something that leaves no trace at the start of a line. -/
inductive Container where
  | quote
  | item (indent : Nat)
  | other
  deriving DecidableEq, Repr, Inhabited

/-- Reads the traces of containers, outermost first; gives the number that go on. -/
def takeContainers : List Container → LineStart → Nat × LineStart
  | [], l => (0, l)
  | .quote :: rest, l =>
      match l.quote? with
      | some l' =>
          let (n, l'') := takeContainers rest l'
          (n + 1, l'')
      | none => (0, l)
  | .item indent :: rest, l =>
      let (enough, l') := l.takeAll indent
      if enough || l'.atEnd then
        let (n, l'') := takeContainers rest l'
        (n + 1, l'')
      else (0, l)
  | .other :: rest, l =>
      let (n, l') := takeContainers rest l
      (n + 1, l')

/-- The number of characters that containers take at the start of a line. -/
def containerLength (containers : List Container) (cs : List Char) : Nat :=
  (takeContainers containers (.ofText cs)).2.taken

end Markdown
end LinkLedger

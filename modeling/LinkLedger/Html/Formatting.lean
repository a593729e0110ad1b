import LinkLedger.Html.Builder

/-!
# Formatting elements

Formatting reaches over the bounds of the elements that it starts in: it is opened again behind
them, and an end tag out of place splits it.
-/

namespace LinkLedger
namespace Html
namespace Builder

/-- Whether an entry of the list ends the part that is opened again: a mark, or an open element. -/
def isSettled (b : Builder) : Formatting → Bool
  | .mark => true
  | .element id _ => b.stack.contains id

/-- Opens formatting elements again, the oldest first. -/
def reopen (b : Builder) : List Formatting → Builder × List Formatting
  | [] => (b, [])
  | .mark :: rest => b.reopen rest
  | .element _ tag :: rest =>
      let (id, b) := b.insertElement .html tag.name tag.attributes
      let b := { b with stack := id :: b.stack }
      let (b, entries) := b.reopen rest
      (b, .element id tag :: entries)

/-- Opens again the formatting elements that have been closed since the last one that is open. -/
def reconstruct (b : Builder) : Builder :=
  let closed := b.formatting.takeWhile fun e => !b.isSettled e
  if closed.isEmpty then b
  else
    let settled := b.formatting.dropWhile fun e => !b.isSettled e
    let (b, entries) := b.reopen closed.reverse
    { b with formatting := entries.reverse ++ settled }

/-- Whether two tags agree in name and attributes, whatever the order of these. -/
def sameTag (s t : Tag) : Bool :=
  s.name == t.name && s.attributes.isPerm t.attributes

/-- The entries since the last mark. -/
def sinceMark (b : Builder) : List Formatting :=
  b.formatting.takeWhile fun e => e != .mark

/-- The list without the last element that agrees with a tag. -/
def dropLastSame (tag : Tag) (entries : List Formatting) : List Formatting :=
  (go entries.reverse).reverse
where
  /-- The list without the first element that agrees with the tag. -/
  go : List Formatting → List Formatting
    | [] => []
    | .mark :: rest => .mark :: go rest
    | .element id t :: rest => if sameTag tag t then rest else .element id t :: go rest

/-- Opens a formatting element; of equal ones since the last mark, at most three stay listed. -/
def openFormatting (b : Builder) (tag : Tag) : Builder :=
  let recent := b.sinceMark
  let count := recent.countP fun e =>
    match e with
    | .element _ t => sameTag tag t
    | .mark => false
  let kept := if count ≥ 3 then dropLastSame tag recent else recent
  let older := b.formatting.drop recent.length
  let b := b.openTag tag
  { b with formatting := .element b.current tag :: kept ++ older }

/-- Forgets the formatting elements up to and with the last mark. -/
def clearToMark (b : Builder) : Builder :=
  { b with formatting := (b.formatting.dropWhile fun e => e != .mark).drop 1 }

/-- Whether an entry is that of an element. -/
def isEntryOf (id : Nat) : Formatting → Bool
  | .element i _ => i == id
  | .mark => false

/-- Forgets a formatting element. -/
def dropFormatting (b : Builder) (id : Nat) : Builder :=
  { b with formatting := b.formatting.eraseP (isEntryOf id) }

/-- The tag of a formatting element. -/
def formattingTag? (b : Builder) (id : Nat) : Option Tag :=
  match b.formatting.find? (isEntryOf id) with
  | some (.element _ tag) => some tag
  | _ => none

/-- The latest formatting element of a name since the last mark. -/
def lastFormatting? (b : Builder) (name : String) : Option (Nat × Tag) :=
  b.sinceMark.findSome? fun e =>
    match e with
    | .element id tag => if tag.name = name then some (id, tag) else none
    | .mark => none

/-- Closes open elements for an end tag that has no rule of its own: the innermost element of that
name, unless a special element is nearer. -/
def closeOther (b : Builder) (name : String) : Builder :=
  match search b.stack with
  | none => b
  | some below =>
      { b with stack := below }
where
  /-- The open elements around the innermost one of the name. -/
  search : List Nat → Option (List Nat)
    | [] => none
    | id :: rest =>
        if (b.kind id).is name then some rest
        else if (b.kind id).isSpecial then none
        else search rest

/-- Where the split formatting element goes in the list: in place of the old one, or behind the copy
of an inner one. -/
inductive Bookmark where
  | atOld
  | behind (id : Nat)

/-- Copies the formatting elements between a special element and the formatting element around it,
from inside out, so that each holds the one before; others are closed.  Gives the new state, the
numbers of the copies from inside out, the outermost one of them, and the bookmark. -/
def copyInner (furthest : Nat) :
    Nat → List Nat → Builder → (last : Nat) → Bookmark → Builder × List Nat × Nat × Bookmark
  | _, [], b, last, mark => (b, [], last, mark)
  | count, id :: rest, b, last, mark =>
      match b.formattingTag? id with
      | none => copyInner furthest (count + 1) rest b last mark
      | some tag =>
          if count ≥ 3 then copyInner furthest (count + 1) rest (b.dropFormatting id) last mark
          else
            let (new, b) := b.create ⟨.html, tag.name⟩ tag.attributes
            let b :=
              { b with
                formatting := b.formatting.map fun e =>
                  if isEntryOf id e then .element new tag else e }
            let mark := if last = furthest then .behind new else mark
            let b := (b.detach last).append new last
            let (b, copies, last, mark) := copyInner furthest (count + 1) rest b new mark
            (b, new :: copies, last, mark)

/-- The list with a new entry at the bookmark and without that of the old element. -/
def placeEntry (old : Nat) (entry : Formatting) (mark : Bookmark) (entries : List Formatting) :
    List Formatting :=
  match mark with
  | .atOld => entries.map fun e => if isEntryOf old e then entry else e
  | .behind id =>
      (entries.flatMap fun e => if isEntryOf id e then [entry, e] else [e]).eraseP (isEntryOf old)

/-- Splits the formatting element `id` around the special element `furthest` in it.  The open
elements are `outer`, the formatting element, `middle` (from inside out), the special element, and
`inner`. -/
def splitFormatting (b : Builder) (id : Nat) (tag : Tag) (inner : List Nat) (furthest : Nat)
    (middle outer : List Nat) : Builder :=
  let ancestor := outer.head?.getD 0
  let (b, copies, last, mark) := copyInner furthest 0 middle b furthest .atOld
  let b := { b with stack := inner ++ furthest :: copies ++ id :: outer }
  let b := b.detach last
  let b := b.put last (b.placeIn ancestor)
  let (new, b) := b.create ⟨.html, tag.name⟩ tag.attributes
  let b := (b.moveChildren furthest new).append furthest new
  { b with
    formatting := placeEntry id (.element new tag) mark b.formatting
    stack := inner ++ new :: furthest :: copies ++ outer }

/-- Closes the formatting elements of a name for an end tag, which may stand out of place; at most
`fuel` of them are split. -/
def adoptSteps (name : String) : Nat → Builder → Builder
  | 0, b => b
  | fuel + 1, b =>
      match b.lastFormatting? name with
      | none => b.closeOther name
      | some (id, tag) =>
          if !b.stack.contains id then b.dropFormatting id
          else if !b.inScope .default (· == id) then b
          else
            let above := b.stack.takeWhile (· != id)
            let outer := (b.stack.dropWhile (· != id)).drop 1
            match above.reverse.find? fun n => (b.kind n).isSpecial with
            | none => { b.dropFormatting id with stack := outer }
            | some furthest =>
                let inner := above.takeWhile (· != furthest)
                let middle := (above.dropWhile (· != furthest)).drop 1
                adoptSteps name fuel (b.splitFormatting id tag inner furthest middle outer)

/-- Closes the formatting elements of a name for an end tag. -/
def adopt (b : Builder) (name : String) : Builder :=
  if b.currentIs name && (b.formattingTag? b.current).isNone then b.pop
  else adoptSteps name 8 b

end Builder
end Html
end LinkLedger

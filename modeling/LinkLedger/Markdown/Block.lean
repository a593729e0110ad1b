import LinkLedger.Markdown.Address
import LinkLedger.Markdown.Line
import LinkLedger.Markdown.Tag
import LinkLedger.Text.CaseFold
import LinkLedger.Text.Search

/-!
# The blocks of a Markdown text

A text is read line by line into a tree of blocks.  A line goes on in some of the open containers,
closes the others, and may open new ones; what is left of it belongs to a paragraph or another
block. The text of paragraphs and headings is cut at the characters that may mean something, which
the second reading decides on; definitions of link addresses are put aside.
-/

namespace LinkLedger
namespace Markdown

/-! ## The tree -/

/-- What a part of a text is.  Marks are undecided until the second reading: `tagMark` an opening
bracket, `codeMark` a run of grave accents, `linkMark`, `imageMark` and `closingMark` the brackets
of links and images. -/
inductive Body where
  | paragraph
  | heading
  | rule
  | code
  | markup (text : List Char)
  | quote
  | list (tight : Bool) (mark : Char)
  | item (indent : Nat)
  | text
  | tagMark
  | codeMark (count : Nat) (escaped : Bool)
  | linkMark
  | imageMark
  | closingMark (mayRefer : Bool)
  | link (address : List Char)
  | image (address : List Char)
  | mail
  deriving DecidableEq, Repr, Inhabited

/-- A part of a text, between two places, with the parts inside it. -/
structure Node where
  body : Body
  start : Nat
  stop : Nat
  children : List Node
  deriving Repr, Inhabited

/-- A part without parts inside it. -/
def Node.leaf (body : Body) (start stop : Nat) : Node := ⟨body, start, stop, []⟩

/-- The trace of an open part at the start of a line. -/
def Body.container : Body → Container
  | .quote => .quote
  | .item indent => .item indent
  | _ => .other

/-! ## The marks of a line -/

/-- A line of text: its parts, last one first, the place of the next line, and the line end, which
is none at the end of the text. -/
structure Line where
  parts : List Node
  next : Nat
  lineBreak : Option Node

/-- Adds the plain text between two places. -/
def closeText (parts : List Node) (start stop : Nat) : List Node :=
  if start < stop then .leaf .text start stop :: parts else parts

/-- What interrupts plain text: characters that are left out, and then a mark of some characters, or
that many characters of plain text. -/
structure Cut where
  gap : Nat
  mark : Option Body
  length : Nat

/-- The cut at the start of a text, if there is one. -/
def cut? : List Char → Option Cut
  | '\\' :: c :: cs =>
      if c = '\x60' then
        let count := countChar c (c :: cs)
        some ⟨1, some (.codeMark count true), count⟩
      else if isPunctuation c then some ⟨1, none, 1⟩
      else none
  | '!' :: '[' :: _ => some ⟨0, some .imageMark, 2⟩
  | '[' :: _ => some ⟨0, some .linkMark, 1⟩
  | ']' :: _ => some ⟨0, some (.closingMark true), 1⟩
  | '<' :: _ => some ⟨0, some .tagMark, 1⟩
  | '&' :: cs => (reference? ('&' :: cs)).map fun r => ⟨0, some .text, r.1⟩
  | c :: cs =>
      if c = '\x60' then
        let count := countChar c (c :: cs)
        some ⟨0, some (.codeMark count false), count⟩
      else none
  | [] => none

/-- The line end at a place, with the blanks or the backslash in front of it that belong to it. -/
def lineBreakAt (pos : Nat) (behind rest : List Char) : Node :=
  let length := (lineEnd? rest).getD 0
  let slashes := countChar '\\' behind
  let blanks := countWhile isInnerBlank behind
  let before :=
    if slashes % 2 = 1 ∧ rest.length ≠ length then 1 else if 2 ≤ blanks then blanks else 0
  .leaf .text (pos - before) (pos + length)

/-- Cuts a line at its marks.  `behind` is the text in front of the place `pos`, last character
first, and `start` the place where the current plain text starts. -/
def cutLine : Nat → (pos : Nat) → (behind rest : List Char) → (start : Nat) → List Node → Line
  | 0, pos, _, _, start, parts => ⟨closeText parts start pos, pos, none⟩
  | _ + 1, pos, _, [], start, parts => ⟨closeText parts start pos, pos, none⟩
  | fuel + 1, pos, behind, c :: cs, start, parts =>
      if c = '\n' ∨ c = '\r' then
        let lineBreak := lineBreakAt pos behind (c :: cs)
        ⟨closeText parts start lineBreak.start, lineBreak.stop, some lineBreak⟩
      else
        match cut? (c :: cs) with
        | none => cutLine fuel (pos + 1) (c :: behind) cs start parts
        | some cut =>
            let first := pos + cut.gap
            let width := cut.gap + cut.length
            let closed := closeText parts start pos
            let (start, parts) :=
              match cut.mark with
              | some body => (pos + width, .leaf body first (pos + width) :: closed)
              | none => (first, closed)
            cutLine fuel (pos + width) (((c :: cs).take width).reverse ++ behind)
              ((c :: cs).drop width) start parts

/-! ## The state of the first reading -/

/-- A block that is still open, with the parts inside it, last one first. -/
structure Frame where
  body : Body
  start : Nat
  children : List Node

/-- An address and the folded label that it is known by. -/
abbrev Definition := List Char × List Char

/-- The first reading: the whole text, the open blocks, innermost first, the finished blocks that
lie in none of them, last one first, the definitions, whether the last line was the marker of an
item without text, and whether it was blank. -/
structure Blocks where
  text : List Char
  frames : List Frame
  finished : List Node
  definitions : List Definition
  freshItem : Bool
  lastBlank : Bool

namespace Blocks

/-- The text from a place on. -/
def since (s : Blocks) (ix : Nat) : List Char := s.text.drop ix

/-- The open blocks as containers, outermost first. -/
def containers (s : Blocks) : List Container :=
  s.frames.reverse.map fun f => f.body.container

/-- Adds a part to the innermost open block. -/
def append (s : Blocks) (n : Node) : Blocks :=
  match s.frames with
  | [] => { s with finished := n :: s.finished }
  | f :: fs => { s with frames := { f with children := n :: f.children } :: fs }

/-- Adds parts to the innermost open block. -/
def appendAll (s : Blocks) (ns : List Node) : Blocks :=
  ns.foldl append s

/-- Opens a block. -/
def openBlock (s : Blocks) (body : Body) (start : Nat) : Blocks :=
  { s with frames := ⟨body, start, []⟩ :: s.frames }

/-- The children of an item of a tight list: the paragraphs give way to their parts. -/
def tightItem (n : Node) : Node :=
  match n.body, n.children with
  | .item _, first :: rest =>
      if first.body = .paragraph ∧ first.children.isEmpty then { n with children := [] }
      else
        let parts := (first :: rest).flatMap fun child =>
          if child.body = .paragraph ∧ !child.children.isEmpty then child.children else [child]
        { n with children := parts }
  | _, _ => n

/-- Closes the innermost open block. -/
def closeBlock (s : Blocks) (stop : Nat) : Blocks :=
  match s.frames with
  | [] => s
  | f :: fs =>
      let children := f.children.reverse
      let children :=
        match f.body with
        | .list true _ => children.map tightItem
        | _ => children
      { s with frames := fs }.append ⟨f.body, f.start, stop, children⟩

/-- Closes open blocks until `n` are left; `fuel` bounds their number. -/
def closeDownTo (n stop : Nat) : Nat → Blocks → Blocks
  | 0, s => s
  | fuel + 1, s =>
      if n < s.frames.length then closeDownTo n stop fuel (s.closeBlock stop) else s

/-- Makes the list loose that is the second innermost open block. -/
def loosenOuter (s : Blocks) : Blocks :=
  match s.frames with
  | f :: g :: fs =>
      match g.body with
      | .list _ mark => { s with frames := f :: { g with body := .list false mark } :: fs }
      | _ => s
  | _ => s

/-- Closes the list that is the innermost open block, if it is one. -/
def finishList (s : Blocks) (stop : Nat) : Blocks :=
  let s :=
    match s.frames with
    | ⟨.list _ _, _, _⟩ :: _ => s.closeBlock stop
    | _ => s
  if s.lastBlank then { s.loosenOuter with lastBlank := false } else s

/-- Goes on in the list that is the innermost open block, or opens another one. -/
def continueList (s : Blocks) (start : Nat) (mark : Char) : Blocks :=
  let fresh (s : Blocks) : Blocks :=
    { s.openBlock (.list true mark) start with lastBlank := false }
  match s.frames with
  | ⟨.list tight mark', first, children⟩ :: fs =>
      if mark' = mark then
        if s.lastBlank then
          { s with frames := ⟨.list false mark, first, children⟩ :: fs, lastBlank := false }
        else { s with frames := ⟨.list tight mark, first, children⟩ :: fs }
      else fresh (s.finishList start)
  | _ :: _ => fresh (s.finishList start)
  | [] => fresh s

/-! ## Single blocks -/

/-- A line of HTML, without a carriage return in front of its line feed. -/
def markupLine (cs : List Char) : List Char :=
  let n := cs.length
  if 2 ≤ n ∧ cs[n - 2]? = some '\r' then cs.take (n - 2) ++ cs.drop (n - 1) else cs

/-- Reads the lines of a block of HTML.  With a text `ending`, the block ends behind the line that
holds it, otherwise in front of a blank line. -/
def markupLines (ending : Option (List Char)) : Nat → Blocks → Nat → Blocks × Nat
  | 0, s, ix => (s, ix)
  | fuel + 1, s, ix =>
      let line := (s.since ix).take (lineLength (s.since ix))
      let next := ix + line.length
      let s := s.append (.leaf (.markup (markupLine line)) ix next)
      let (n, l) := takeContainers s.containers (.ofText (s.since next))
      let behind := next + l.taken
      let stops : Bool :=
        match ending with
        | some e => Text.occursIn e line
        | none => l.atEnd || isBlankLine (s.since behind)
      if n < s.frames.length ∨ stops = true ∨ (s.since behind).isEmpty then (s, next)
      else markupLines ending fuel s behind

/-- Reads the lines of a block of code that is indented; `stop` is the end of its last line that is
not blank. -/
def indentedLines : Nat → Blocks → (ix stop : Nat) → (blank : Bool) → Blocks × Nat × Nat
  | 0, s, ix, stop, _ => (s, ix, stop)
  | fuel + 1, s, ix, stop, blank =>
      let next := ix + lineLength (s.since ix)
      let stop := if blank then stop else next
      let (n, l) := takeContainers s.containers (.ofText (s.since next))
      let (deep, l) := l.takeAll 4
      let behind := next + l.taken
      if n < s.frames.length ∨ ¬(deep || l.atEnd) ∨ (s.since behind).isEmpty then (s, next, stop)
      else indentedLines fuel s behind stop (isBlankLine (s.since behind))

/-- Reads the lines of a block of code up to the fence that closes it. -/
def fencedLines (indent length : Nat) (mark : Char) : Nat → Blocks → Nat → Nat
  | 0, _, ix => ix
  | fuel + 1, s, ix =>
      let (n, l) := takeContainers s.containers (.ofText (s.since ix))
      if n < s.frames.length then ix
      else
        let l := (l.takeUpTo indent).2
        let (deep, l') := l.takeAll 4
        match if deep then none else closingFence? mark length l'.rest with
        | some k => ix + l'.taken + k
        | none =>
            let start := ix + l.taken
            fencedLines indent length mark fuel s (start + lineLength (s.since start))

/-- Whether a line ends a paragraph.  Inside the containers of the paragraph an item does so only if
it has text and is not numbered, or numbered with one. -/
def interrupts (inside : Bool) (cs : List Char) : Bool :=
  (lineEnd? cs).isSome || (rule? cs).isSome || (headingLevel? cs).isSome || (fence? cs).isSome ||
    cs.head? = some '>' ||
    (match itemStart? cs with
      | some (n, mark, number) =>
          !inside ||
            ((mark = '*' || mark = '-' || mark = '+' || number = 1) &&
              !twoBlankLines (cs.drop n))
      | none => false) ||
    (cs.head? = some '<' && ((blockEnd? (cs.drop 1)).isSome || startsBlockElement (cs.drop 1)))

/-- Makes the innermost open block a heading. -/
def makeHeading (s : Blocks) : Blocks :=
  match s.frames with
  | f :: fs => { s with frames := { f with body := .heading } :: fs }
  | [] => s

/-- Reads the lines of a paragraph, which is the innermost open block. -/
def paragraphLines : Nat → Blocks → Nat → Blocks × Nat
  | 0, s, ix => (s, ix)
  | fuel + 1, s, ix =>
      let rest := s.since ix
      let line := cutLine (rest.length + 1) ix (s.text.take ix).reverse rest ix []
      let s := s.appendAll line.parts.reverse
      let (n, l) := takeContainers s.containers (.ofText (s.since line.next))
      let inside : Bool := n == s.frames.length
      let (deep, l) := l.takeAll 4
      match if deep || !inside then none else underline? l.rest with
      | some k => (s.makeHeading, line.next + l.taken + k)
      | none =>
          let l' := l.skipBlanks
          if (!deep && interrupts inside l.rest) || l'.atEnd then (s, line.next)
          else
            paragraphLines fuel (s.appendAll line.lineBreak.toList) (line.next + l'.taken)

/-! ## Definitions -/

/-- Goes over blanks with line ends; gives the place behind them and the number of line ends, of
which there may be one. -/
def definitionBlanks (s : Blocks) : Nat → (ix breaks : Nat) → Option (Nat × Nat)
  | 0, _, _ => none
  | fuel + 1, ix, breaks =>
      let ix := ix + countWhile isInnerBlank (s.since ix)
      match lineEnd? (s.since ix) with
      | none => some (ix, breaks)
      | some n =>
          if breaks = 1 then none
          else
            let (k, l) := takeContainers s.containers (.ofText (s.since (ix + n)))
            if k = s.frames.length then s.definitionBlanks fuel (ix + n + l.taken) 1 else none

/-- The definition that starts at a place: the place behind it, its label and its address. -/
def definition? (s : Blocks) (ix : Nat) : Option (Nat × List Char × List Char) := do
  let rest ← "[".toList.isPrefixOf? (s.since ix)
  let margin (cs : List Char) : Option Nat :=
    let (n, l) := takeContainers s.containers (.ofText cs)
    if interrupts (n == s.frames.length) l.rest then none else some l.taken
  let (labelLength, label) ← labelRest? margin rest
  let colon := ix + 1 + labelLength
  if (s.since colon).head? = some ':' then
    let (start, _) ← s.definitionBlanks 3 (colon + 1) 0
    let (length, address) ← address? definitionNesting (s.since start)
    if length = 0 then none
    else
      let stop := start + length
      let untitled := (stop, label, meaning address)
      match s.definitionBlanks 3 stop 0 with
      | none => some untitled
      | some (behind, breaks) =>
          if behind = stop ∧ breaks = 0 then none
          else
            let otherwise := if 0 < breaks then some untitled else none
            match title? (s.since behind) with
            | none => otherwise
            | some n =>
                if isBlankLine (s.since (behind + n)) then
                  some (behind + n, label, meaning address)
                else otherwise
  else none

/-- Puts a definition aside, unless its label has one already. -/
def define (s : Blocks) (label address : List Char) : Blocks :=
  let key := Text.foldCase label
  if (s.definitions.lookup key).isSome then s
  else { s with definitions := (key, address) :: s.definitions }

/-! ## Lines -/

/-- Opens the containers that start on a line; gives the rest of the line, or nothing if the line is
an item without text on it, and then the place of the next line. -/
def newContainers (start : Nat) : Nat → Blocks → LineStart → Blocks × Sum LineStart Nat
  | 0, s, l => (s, .inl l)
  | fuel + 1, s, l =>
      let here := start + l.taken
      match l.item? with
      | some (mark, _, indent, l') =>
          let s := (s.continueList here mark).openBlock (.item indent) here
          let behind := start + l'.taken
          match blankLine? (s.since behind) with
          | some n => ({ s with freshItem := true }, .inr (behind + n))
          | none => newContainers start fuel s l'
      | none =>
          match l.quote? with
          | some l' => newContainers start fuel ((s.finishList start).openBlock .quote here) l'
          | none => (s, .inl l)

/-- Reads the block that starts on a line that is not blank, behind its containers. -/
def readBlock (s : Blocks) (start : Nat) (l : LineStart) : Blocks × Nat :=
  let fuel := s.text.length + 1
  let (indent, l) := l.takeUpTo 4
  let ix := start + l.taken
  let rest := s.since ix
  if indent = 4 then
    let (s, next, stop) := indentedLines fuel (s.openBlock .code ix) ix ix false
    (s.closeBlock stop, next)
  else
    let lone : Bool := rest.head? = some '<' && (startsBlockElement (rest.drop 1) || isLoneTag rest)
    match if rest.head? = some '<' then blockEnd? (rest.drop 1) else none with
    | some ending => markupLines (some ending) fuel s ix
    | none =>
      if lone then markupLines none fuel s ix
      else
        match rule? rest with
        | some n => (s.append (.leaf .rule ix (ix + n)), ix + n)
        | none =>
        match headingLevel? rest with
        | some level => heading s ix level
        | none =>
        match s.definition? ix with
        | some (behind, label, address) =>
            (s.define label address, behind + (blankLine? (s.since behind)).getD 0)
        | none =>
        match fence? rest with
        | some (n, mark) =>
            let info := ix + n + countWhile isInnerBlank (s.since (ix + n))
            let first := info + lineLength (s.since info)
            let stop := fencedLines indent n mark fuel (s.openBlock .code ix) first
            (s.append (.leaf .code ix stop), stop + (blankLine? (s.since stop)).getD 0)
        | none =>
            let (s, next) := paragraphLines fuel (s.openBlock .paragraph ix) ix
            (s.closeBlock next, next)
where
  /-- Reads a heading of one line. -/
  heading (s : Blocks) (ix level : Nat) : Blocks × Nat :=
    match lineEnd? (s.since (ix + level)) with
    | some n => (s.append (.leaf .heading ix (ix + level + n)), ix + level + n)
    | none =>
        let start := ix + level + countWhile isInnerBlank (s.since (ix + level))
        let rest := s.since start
        let line := cutLine (rest.length + 1) start (s.text.take start).reverse rest start []
        (s.append ⟨.heading, ix, line.next, line.parts.reverse⟩, line.next)

/-- Reads the line at a place and what belongs to its block; gives the place of the next line. -/
def readLine (s : Blocks) (start : Nat) : Blocks × Nat :=
  let (n, l) := takeContainers s.containers (.ofText (s.since start))
  let s := closeDownTo n start s.frames.length s
  match newContainers start (s.text.length + 1) s l with
  | (s, .inr next) => (s, next)
  | (s, .inl l) =>
      let ix := start + l.taken
      match blankLine? (s.since ix) with
      | some k =>
          match s.frames with
          | [] => (s, ix + k)
          | f :: _ =>
              if f.body = .quote then (s, ix + k)
              else
                let s := if s.freshItem then s.closeBlock start else s
                ({ s with lastBlank := true }, ix + k)
      | none => readBlock (({ s with freshItem := false }).finishList start) start l

/-- Reads lines up to the end of the text. -/
def readLines : Nat → Blocks → Nat → Blocks
  | 0, s, _ => s
  | fuel + 1, s, ix =>
      if ix < s.text.length then
        let (s, next) := s.readLine ix
        readLines fuel s next
      else closeDownTo 0 ix s.frames.length s

/-- The blocks and the definitions of a text. -/
def ofText (cs : List Char) : List Node × List Definition :=
  let s := readLines (cs.length + 1) ⟨cs, [], [], [], false, false⟩ 0
  (s.finished.reverse, s.definitions)

end Blocks
end Markdown
end LinkLedger

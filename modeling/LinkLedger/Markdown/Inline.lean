import LinkLedger.Markdown.Block

/-!
# Links and HTML within a block

The second reading decides on the marks within a block, from left to right: brackets may be
addresses or HTML, grave accents enclose code, and square brackets are links and images if an
address follows them or a definition knows their label.
-/

namespace LinkLedger
namespace Markdown

/-- What the second reading knows of a block: the text up to its end, the containers around its
lines, and the definitions. -/
structure Scope where
  text : List Char
  containers : List Container
  definitions : List Definition

namespace Scope

/-- The text from a place on. -/
def since (b : Scope) (ix : Nat) : List Char := b.text.drop ix

/-- The text between two places. -/
def between (b : Scope) (start stop : Nat) : List Char := (b.since start).take (stop - start)

/-- The width of the margin of a line. -/
def margin (b : Scope) (cs : List Char) : Nat := containerLength b.containers cs

/-- The address that a label is defined for. -/
def definition? (b : Scope) (label : List Char) : Option (List Char) :=
  b.definitions.lookup (Text.foldCase label)

end Scope

/-! ## Going on in a list of parts -/

/-- The parts that reach behind a place. -/
def beyond (ix : Nat) (parts : List Node) : List Node :=
  parts.dropWhile fun n => n.stop ≤ ix

/-- The parts behind a place; the first of them starts there at the earliest. -/
def resume (ix : Nat) (parts : List Node) : List Node :=
  match beyond ix parts with
  | [] => []
  | n :: ns => { n with start := max n.start ix } :: ns

/-! ## Tags -/

/-- The place behind the piece of HTML that starts with the bracket `mark`, and its text, margins
left out; `start` is where the next part starts. -/
def inlineMarkup? (b : Scope) (mark start : Nat) : Option (Nat × List Char) :=
  let whole (stop : Nat) : Nat × List Char := (stop, b.between mark stop)
  match b.since start with
  | [] => none
  | '!' :: cs => (declaration? cs).map fun n => whole (start + 1 + n)
  | '?' :: cs => (instructionRest? cs).map fun n => whole (start + 1 + n)
  | _ => do
      let p ← tag? (some b.margin) (b.since (start - 1))
      let stop := start - 1 + p.taken
      some (if p.cut then (stop, p.kept.reverse) else whole stop)

/-! ## Links -/

/-- The place behind the title of a link, between the place behind its first mark and `closing`.  At
a line end the title goes on where the next part starts. -/
def titleStop? (b : Scope) (parts : List Node) (opening closing : Char) : Nat → Nat → Option Nat
  | 0, _ => none
  | fuel + 1, ix =>
      match b.since ix with
      | [] => none
      | c :: cs =>
          let later : Option Nat :=
            if c = '\n' ∨ c = '\r' then
              ((beyond (ix + 1) parts).head?.map (·.start)).filter (ix < ·)
            else none
          let escape : Bool := c = '\\' && (cs.head?.any isPunctuation)
          if c = closing then some (ix + 1)
          else if c = opening then none
          else
            match later, reference? (c :: cs) with
            | some start, _ => titleStop? b parts opening closing fuel start
            | none, some (n, _) =>
                if c = '&' then titleStop? b parts opening closing fuel (ix + n)
                else titleStop? b parts opening closing fuel (ix + if escape then 2 else 1)
            | none, none =>
                titleStop? b parts opening closing fuel (ix + if escape then 2 else 1)

/-- The place behind blanks. -/
def skipBlanks (b : Scope) (ix : Nat) : Nat := ix + countWhile isBlank (b.since ix)

/-- The address in parentheses at a place, and the place behind them. -/
def parenthesised? (b : Scope) (ix : Nat) (parts : List Node) : Option (Nat × List Char) := do
  let _ ← "(".toList.isPrefixOf? (b.since ix)
  let start := skipBlanks b (ix + 1)
  let (length, address) ← address? linkNesting (b.since start)
  let behind := skipBlanks b (start + length)
  let titled (opening closing : Char) : Option Nat :=
    titleStop? b parts opening closing (b.text.length + 1) (behind + 1)
  let title : Option Nat :=
    match b.since behind with
    | '\'' :: _ => titled '\'' '\''
    | '"' :: _ => titled '"' '"'
    | '(' :: _ => titled '(' ')'
    | _ => none
  let last := match title with
    | some stop => skipBlanks b stop
    | none => behind
  if (b.since last).head? = some ')' then some (last + 1, meaning address) else none

/-- The label in brackets at the start of a text, and its length with them. -/
def label? (b : Scope) (cs : List Char) : Option (Nat × List Char) := do
  let rest ← "[".toList.isPrefixOf? cs
  let (n, label) ← labelRest? (fun line => some (b.margin line)) rest
  some (n + 1, label)

/-- What a link by reference is: the address, and the parts behind it. -/
structure Referred where
  address : List Char
  parts : List Node

/-- The outcome of looking for the label of a link. -/
inductive Reference where
  | found (link : Referred)
  | missing (parts : List Node)

/-- The link by reference whose text ends with a closing bracket at `stop` and starts with a bracket
in front of `start`; `parts` are those behind it. -/
def referred? (b : Scope) (start stop : Nat) (mayRefer : Bool) (parts : List Node) : Reference :=
  let ownLabel (next : List Node) : Reference :=
    if mayRefer then
      let written := b.between (start - 1) stop
      match label? b written with
      | some (n, label) =>
          if n = written.length then
            match b.definition? label with
            | some address => .found ⟨address, next⟩
            | none => .missing parts
          else .missing parts
      | none => .missing parts
    else .missing parts
  match parts with
  | [] => ownLabel parts
  | first :: _ =>
      let cs := b.since first.start
      if "[]".toList.isPrefixOf cs then ownLabel (parts.drop 2)
      else
        match label? b cs with
        | none => ownLabel parts
        | some (n, label) =>
            let close := first.start + n - 1
            match beyond close parts with
            | [] => .missing parts
            | closing :: behind =>
                match b.definition? label with
                | some address => .found ⟨address, behind⟩
                | none =>
                    let front := parts.takeWhile fun p => p.stop ≤ close
                    .missing (front ++ { closing with body := .closingMark false } :: behind)

/-! ## The reading -/

/-- What an opening bracket may still become. -/
inductive Opening where
  | link
  | image
  | nothing
  deriving DecidableEq, Repr

/-- An opening bracket whose closing one has not come yet, and the parts in front of it, last one
first. -/
structure Pending where
  opening : Opening
  mark : Node
  before : List Node

/-- A part as plain text. -/
def Node.plain (n : Node) : Node := { n with body := .text }

/-- No link may enclose another one: the brackets that are still open may become images only. -/
def disableLinks (pending : List Pending) : List Pending :=
  pending.map fun p => if p.opening = .link then { p with opening := .nothing } else p

/-- All parts in order, where the open brackets are plain text. -/
def flatten (parts : List Node) : List Pending → List Node
  | [] => parts.reverse
  | p :: ps => flatten (parts ++ p.mark.plain :: p.before) ps

/-- The parts behind the next run of `count` grave accents, and that run. -/
def codeStop? (count : Nat) : List Node → Option (Node × List Node)
  | [] => none
  | n :: ns =>
      match n.body with
      | .codeMark c _ => if c = count then some (n, ns) else codeStop? count ns
      | _ => codeStop? count ns

/-- Decides on the marks among parts.  `parts` are the decided ones behind the last open bracket,
last one first. -/
def decideMarks (b : Scope) : Nat → List Pending → (parts todo : List Node) → List Node
  | 0, pending, parts, todo => flatten (todo.reverse ++ parts) pending
  | _ + 1, pending, parts, [] => flatten parts pending
  | fuel + 1, pending, parts, n :: todo =>
      match n.body with
      | .tagMark =>
          let start := (todo.head?.map (·.start)).getD b.text.length
          match bracketedLink? (b.since start) with
          | some (length, mail) =>
              let stop := start + length
              let address := b.between start (stop - 1)
              let body := if mail then Body.mail else .link address
              decideMarks b fuel pending (⟨body, n.start, stop, []⟩ :: parts) (resume stop todo)
          | none =>
              match inlineMarkup? b n.start start with
              | some (stop, text) =>
                  decideMarks b fuel pending (.leaf (.markup text) n.start stop :: parts)
                    (resume stop todo)
              | none => decideMarks b fuel pending (n.plain :: parts) todo
      | .codeMark count escaped =>
          let wanted := if escaped then count - 1 else count
          match if wanted = 0 then none else codeStop? wanted todo with
          | some (closing, behind) =>
              decideMarks b fuel pending (.leaf .text n.start closing.stop :: parts) behind
          | none => decideMarks b fuel pending (n.plain :: parts) todo
      | .linkMark => decideMarks b fuel (⟨.link, n, parts⟩ :: pending) [] todo
      | .imageMark => decideMarks b fuel (⟨.image, n, parts⟩ :: pending) [] todo
      | .closingMark mayRefer =>
          match pending with
          | [] => decideMarks b fuel [] (n.plain :: parts) todo
          | p :: ps =>
              let linked (address : List Char) (stop : Nat) (behind : List Node) : List Node :=
                let body := if p.opening = .image then Body.image address else .link address
                let ps := if p.opening = .link then disableLinks ps else ps
                decideMarks b fuel ps (⟨body, p.mark.start, stop, parts.reverse⟩ :: p.before) behind
              let unlinked (behind : List Node) : List Node :=
                decideMarks b fuel ps (n.plain :: parts ++ p.mark.plain :: p.before) behind
              if p.opening = .nothing then unlinked todo
              else
                match parenthesised? b n.stop todo with
                | some (stop, address) => linked address stop (resume stop todo)
                | none =>
                    match referred? b p.mark.stop n.stop mayRefer todo with
                    | .found link => linked link.address n.stop link.parts
                    | .missing behind => unlinked behind
      | _ => decideMarks b fuel pending (n :: parts) todo

mutual

/-- A block whose marks have been decided on, and those of the blocks in it. -/
def Node.decided (text : List Char) (definitions : List Definition) (around : List Container) :
    Node → Node
  | ⟨body, start, stop, children⟩ =>
      let containers := around ++ [body.container]
      let parts := decidedAll text definitions containers children
      ⟨body, start, stop,
        decideMarks ⟨text.take stop, containers, definitions⟩ (parts.length + 1) [] [] parts⟩

/-- Blocks whose marks have been decided on. -/
def decidedAll (text : List Char) (definitions : List Definition) (around : List Container) :
    List Node → List Node
  | [] => []
  | n :: ns => n.decided text definitions around :: decidedAll text definitions around ns

end

/-! ## What a text holds -/

/-- A piece of a text that links can be found in. -/
inductive Piece where
  | link (address : List Char)
  | image (address : List Char)
  | markup (text : List Char)
  deriving DecidableEq, Repr

/-- The piece that a part starts with. -/
def Body.pieces : Body → List Piece
  | .link address => [.link address]
  | .image address => [.image address]
  | .markup html => [.markup html]
  | _ => []

mutual

/-- The pieces of a part, in the order of the text. -/
def Node.pieces : Node → List Piece
  | ⟨body, _, _, children⟩ => body.pieces ++ piecesOfAll children

/-- The pieces of parts. -/
def piecesOfAll : List Node → List Piece
  | [] => []
  | n :: ns => n.pieces ++ piecesOfAll ns

end

/-- The pieces of a Markdown text, in its order. -/
def pieces (cs : List Char) : List Piece :=
  let (blocks, definitions) := Blocks.ofText cs
  piecesOfAll (decidedAll cs definitions [] blocks)

end Markdown
end LinkLedger

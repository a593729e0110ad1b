import LinkLedger.Html.Names
import LinkLedger.Html.Token

/-!
# A tree under construction

The elements made so far, the open ones, and what the rules have to remember.  Elements are known
by their number; element 0 is the root.
-/

namespace LinkLedger
namespace Html

/-- An element of a tree under construction. -/
structure Node where
  kind : Kind
  attributes : List (String × String)
  parent : Option Nat
  children : List Nat
  deriving Repr, Inhabited

/-- Which rules apply. -/
inductive Mode where
  | inBody
  | inRaw
  | inTable
  | inTableText
  | inCaption
  | inColumns
  | inTableBody
  | inRow
  | inCell
  | inSelect
  | inSelectInTable
  | inTemplate
  deriving DecidableEq, Repr, Inhabited

/-- An element of the list of active formatting: a mark, or an open or closed element with the tag
that made it. -/
inductive Formatting where
  | mark
  | element (id : Nat) (tag : Tag)
  deriving DecidableEq, Repr

/-- The state of the construction.  `stack` lists the open elements from the innermost one and
`formatting` the active formatting elements from the latest one. -/
structure Builder where
  nodes : Array Node
  stack : List Nat
  formatting : List Formatting
  mode : Mode
  returnMode : Mode
  templateModes : List Mode
  pending : List Char
  form : Option Nat
  fostering : Bool
  skipLineFeed : Bool
  holding : Holding
  deriving Inhabited

namespace Builder

/-- A root without children, in the rules of a body. -/
def start : Builder where
  nodes := #[⟨⟨.html, "html"⟩, [], none, []⟩]
  stack := [0]
  formatting := []
  mode := .inBody
  returnMode := .inBody
  templateModes := []
  pending := []
  form := none
  fostering := false
  skipLineFeed := false
  holding := .markup

/-! ## Elements -/

/-- What an element is. -/
def kind (b : Builder) (id : Nat) : Kind :=
  match b.nodes[id]? with
  | some n => n.kind
  | none => ⟨.html, ""⟩

/-- The parent of an element. -/
def parent? (b : Builder) (id : Nat) : Option Nat :=
  b.nodes[id]?.bind (·.parent)

/-- Changes an element. -/
def change (b : Builder) (id : Nat) (f : Node → Node) : Builder :=
  { b with nodes := b.nodes.modify id f }

/-- A new element without a parent, and its number. -/
def create (b : Builder) (kind : Kind) (attributes : List (String × String)) : Nat × Builder :=
  (b.nodes.size, { b with nodes := b.nodes.push ⟨kind, attributes, none, []⟩ })

/-- Takes an element from its parent. -/
def detach (b : Builder) (id : Nat) : Builder :=
  match b.parent? id with
  | none => b
  | some p =>
      (b.change p fun n => { n with children := n.children.filter (· != id) }).change id
        fun n => { n with parent := none }

/-- Makes an element without a parent the last child of another. -/
def append (b : Builder) (parent id : Nat) : Builder :=
  (b.change parent fun n => { n with children := n.children ++ [id] }).change id
    fun n => { n with parent := some parent }

/-- A list with `x` in front of `y`. -/
def insertInFront (x y : Nat) : List Nat → List Nat
  | [] => [x]
  | z :: zs => if z = y then x :: z :: zs else z :: insertInFront x y zs

/-- Puts an element without a parent in front of another. -/
def insertBefore (b : Builder) (sibling id : Nat) : Builder :=
  match b.parent? sibling with
  | none => b
  | some p =>
      (b.change p fun n => { n with children := insertInFront id sibling n.children }).change id
        fun n => { n with parent := some p }

/-- Gives the children of one element to another. -/
def moveChildren (b : Builder) (source target : Nat) : Builder :=
  let moved := (b.nodes[source]?.map (·.children)).getD []
  let b := b.change source fun n => { n with children := [] }
  let b := b.change target fun n => { n with children := n.children ++ moved }
  moved.foldl (fun b id => b.change id fun n => { n with parent := some target }) b

/-! ## Open elements -/

/-- The innermost open element. -/
def current (b : Builder) : Nat :=
  b.stack.head?.getD 0

/-- What the innermost open element is. -/
def currentKind (b : Builder) : Kind :=
  b.kind b.current

/-- Whether the innermost open element is the HTML element of a name. -/
def currentIs (b : Builder) (name : String) : Bool :=
  b.currentKind.is name

/-- Closes the innermost open element. -/
def pop (b : Builder) : Builder :=
  { b with stack := b.stack.drop 1 }

/-- Closes open elements up to and with the first one that satisfies `p`. -/
def popThrough (b : Builder) (p : Kind → Bool) : Builder :=
  { b with stack := (b.stack.dropWhile fun id => !p (b.kind id)).drop 1 }

/-- Closes open elements up to and with the innermost one of a name. -/
def popNamed (b : Builder) (name : String) : Builder :=
  b.popThrough fun k => k.is name

/-- Closes open elements until the innermost one satisfies `p`. -/
def popUntil (b : Builder) (p : Kind → Bool) : Builder :=
  { b with stack := b.stack.dropWhile fun id => !p (b.kind id) }

/-- Closes the elements whose end tag may be left out here. -/
def impliedEnds (b : Builder) (names : List String) : Builder :=
  { b with stack := b.stack.dropWhile fun id => (b.kind id).isOneOf names }

/-- Closes the elements whose end tag may be left out, except those of a name. -/
def impliedEndsExcept (b : Builder) (name : String) : Builder :=
  b.impliedEnds (impliedEndNames.filter (· != name))

/-- Searches open elements from the innermost one for one that satisfies `p`, up to the end of the
scope. -/
def searchScope (b : Builder) (scope : Scope) (p : Nat → Bool) : List Nat → Bool
  | [] => false
  | id :: rest => p id || (!scope.endsAt (b.kind id) && b.searchScope scope p rest)

/-- Whether an open element that satisfies `p` is in scope. -/
def inScope (b : Builder) (scope : Scope) (p : Nat → Bool) : Bool :=
  b.searchScope scope p b.stack

/-- Whether an open HTML element of one of some names is in scope. -/
def hasInScope (b : Builder) (scope : Scope) (names : List String) : Bool :=
  b.inScope scope fun id => (b.kind id).isOneOf names

/-- Whether an HTML element of a name is open. -/
def isOpen (b : Builder) (name : String) : Bool :=
  b.stack.any fun id => (b.kind id).is name

/-- Takes an element out of the open ones. -/
def dropOpen (b : Builder) (id : Nat) : Builder :=
  { b with stack := b.stack.erase id }

/-! ## Placing elements -/

/-- A place in the tree. -/
inductive Place where
  | lastChildOf (id : Nat)
  | before (sibling : Nat)
  deriving DecidableEq, Repr

/-- The elements in which misplaced content is put in front of the table. -/
def fosterNames : List String := ["table", "tbody", "tfoot", "thead", "tr"]

/-- The place in front of the innermost open table, or in the template that is nearer. -/
def fosterPlace (b : Builder) : List Nat → Place
  | [] => .lastChildOf 0
  | id :: rest =>
      if (b.kind id).is "template" then .lastChildOf id
      else if (b.kind id).is "table" then
        if (b.parent? id).isSome then .before id else .lastChildOf (rest.head?.getD 0)
      else b.fosterPlace rest

/-- The place where an element goes that is to be put into `target`. -/
def placeIn (b : Builder) (target : Nat) : Place :=
  if b.fostering && (b.kind target).isOneOf fosterNames then b.fosterPlace b.stack
  else .lastChildOf target

/-- Puts an element without a parent at a place. -/
def put (b : Builder) (id : Nat) : Place → Builder
  | .lastChildOf p => b.append p id
  | .before s => b.insertBefore s id

/-- Makes an element at the place for content of the innermost open element; gives its number. -/
def insertElement (b : Builder) (vocabulary : Vocabulary) (name : String)
    (attributes : List (String × String)) : Nat × Builder :=
  let place := b.placeIn b.current
  let (id, b) := b.create ⟨vocabulary, name⟩ attributes
  (id, b.put id place)

/-- Makes an element and opens it. -/
def openElement (b : Builder) (vocabulary : Vocabulary) (tag : Tag) : Builder :=
  let (id, b) := b.insertElement vocabulary tag.name tag.attributes
  { b with stack := id :: b.stack }

/-- Makes an HTML element and opens it. -/
def openTag (b : Builder) (tag : Tag) : Builder :=
  b.openElement .html tag

/-- Opens an HTML element that no tag asked for. -/
def openNamed (b : Builder) (name : String) : Builder :=
  b.openTag ⟨name, [], false⟩

/-- Makes an HTML element that stays empty. -/
def addVoid (b : Builder) (tag : Tag) : Builder :=
  (b.insertElement .html tag.name tag.attributes).2

/-- Opens an element that holds characters only. -/
def openRaw (b : Builder) (tag : Tag) (holding : Holding) : Builder :=
  { b.openTag tag with returnMode := b.mode, mode := .inRaw, holding := holding }

/-- Closes the paragraph that is innermost in the scope of a button. -/
def closeParagraph (b : Builder) : Builder :=
  (b.impliedEnds (impliedEndNames.filter (· != "p"))).popNamed "p"

/-- Closes the paragraph in scope, if there is one. -/
def closeOpenParagraph (b : Builder) : Builder :=
  if b.hasInScope .button ["p"] then b.closeParagraph else b

/-! ## The result -/

/-- The tree below an element; `fuel` bounds its depth. -/
def tree (b : Builder) : Nat → Nat → Element
  | 0, id => .node id (b.kind id).vocabulary (b.kind id).name [] []
  | fuel + 1, id =>
      match b.nodes[id]? with
      | none => .node id .html "" [] []
      | some n =>
          .node id n.kind.vocabulary n.kind.name n.attributes (n.children.map (b.tree fuel))

end Builder
end Html
end LinkLedger

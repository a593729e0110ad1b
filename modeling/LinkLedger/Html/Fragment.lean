import LinkLedger.Html.Rules.Table

/-!
# Fragments

A text of HTML as the content of a body.  Every text is a fragment: what the rules of the language
do not allow is repaired.
-/

namespace LinkLedger
namespace Html

namespace Builder

/-- The HTML elements that cannot stand in formulas or drawings. -/
def breakoutNames : List String :=
  ["b", "big", "blockquote", "body", "br", "center", "code", "dd", "div", "dl", "dt", "em",
    "embed", "h1", "h2", "h3", "h4", "h5", "h6", "head", "hr", "i", "img", "li", "listing", "menu",
    "meta", "nobr", "ol", "p", "pre", "ruby", "s", "small", "span", "strong", "strike", "sub",
    "sup", "table", "tt", "u", "ul", "var"]

/-- Whether a start tag cannot stand in formulas or drawings. -/
def breaksOut (tag : Tag) : Bool :=
  breakoutNames.contains tag.name ||
    (tag.name == "font" && tag.attributes.any fun a => ["color", "face", "size"].contains a.1)

/-- Whether a token belongs to a formula or a drawing. -/
def isForeign (b : Builder) (token : Token) : Bool :=
  let k := b.currentKind
  if b.stack.length ≤ 1 || k.vocabulary == .html then false
  else
    match token with
    | .finish => false
    | .char _ => !(k.isMathText || k.isSvgHolder)
    | .start tag =>
        if k.isMathText then ["mglyph", "malignmark"].contains tag.name
        else if k.isSvgHolder then false
        else !(k == ⟨.math, "annotation-xml"⟩ && tag.name == "svg")
    | _ => true

/-- An end tag in a formula or a drawing: it closes the innermost element of its name, unless an
HTML element is nearer, whose rules apply then. -/
def stopForeign (b : Builder) (token : Token) (name : String) : Bool → List Nat → Outcome
  | _, [] => .done b
  | _, [_] => .done b
  | first, id :: rest =>
      let k := b.kind id
      if !first && k.vocabulary == .html then .rules b.mode b token
      else if k.name = name then .done { b with stack := rest }
      else b.stopForeign token name false rest

/-- A token in a formula or a drawing. -/
def inForeign (b : Builder) (token : Token) : Outcome :=
  match token with
  | .start tag =>
      if breaksOut tag then
        let b := b.popUntil fun k => k.vocabulary == .html || k.isMathText || k.isSvgHolder
        .rules b.mode b token
      else .done (b.startForeign b.currentKind.vocabulary tag)
  | .stop name => b.stopForeign token name true b.stack
  | _ => .done b

/-- The rules of a mode. -/
def step (mode : Mode) (b : Builder) (token : Token) : Outcome :=
  match mode with
  | .inBody => b.inBody token
  | .inRaw => b.inRaw token
  | .inTable => b.inTable token
  | .inTableText => b.inTableText token
  | .inCaption => b.inCaption token
  | .inColumns => b.inColumns token
  | .inTableBody => b.inTableBody token
  | .inRow => b.inRow token
  | .inCell => b.inCell token
  | .inSelect => b.inSelect token
  | .inSelectInTable => b.inSelectInTable token
  | .inTemplate => b.inTemplate token

/-- Follows the outcomes of rules until a token is done with; `fuel` bounds their number. -/
def settle : Nat → Outcome → Builder
  | _, .done b => { b with fostering := false }
  | 0, .again mode b _ => { b with mode := mode, fostering := false }
  | 0, .rules _ b _ => { b with fostering := false }
  | fuel + 1, .again mode b token =>
      let b := { b with mode := mode, fostering := false }
      settle fuel (if b.isForeign token then b.inForeign token else step mode b token)
  | fuel + 1, .rules mode b token => settle fuel (step mode b token)

/-- Takes in a token. -/
def take (b : Builder) (token : Token) : Builder :=
  let skip := b.skipLineFeed && token == .char '\n'
  let b := { b with skipLineFeed := false }
  if skip then b else settle (8 * b.stack.length + 16) (.again b.mode b token)

/-- Takes in a text; `fuel` bounds the number of steps. -/
def read : Nat → List Char → Builder → Builder
  | 0, _, b => b
  | _ + 1, [], b => b
  | fuel + 1, cs, b =>
      let foreign := b.stack.length > 1 && b.currentKind.vocabulary != .html
      let (tokens, rest) := nextTokens b.holding foreign cs
      read fuel rest (tokens.foldl take b)

end Builder

/-- The tree of a fragment: a root whose children are the outermost elements of the text. -/
def fragment (text : List Char) : Element :=
  let cs := inputOf text
  let b := (Builder.start.read (cs.length + 1) cs).take .finish
  b.tree b.nodes.size 0

end Html
end LinkLedger

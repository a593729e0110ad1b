import LinkLedger.Html.Rules.Body

/-!
# Rules for tables

What a token does in a table and its parts.  Content that no part of a table may hold goes in front
of the table.
-/

namespace LinkLedger
namespace Html
namespace Builder

/-- Treats a token by the rules for content, in front of the table. -/
def misplaced (b : Builder) (token : Token) : Outcome :=
  .rules .inBody { b with fostering := true } token

/-- A character in a table. -/
def charInTable (b : Builder) (token : Token) : Outcome :=
  if b.currentKind.isOneOf fosterNames then
    .again .inTableText { b with returnMode := b.mode } token
  else b.misplaced token

/-- Whether an element may be innermost when a part of a table starts. -/
def isTableContext (k : Kind) : Bool := k.isOneOf ["html", "table", "template"]

/-- Whether an element may be innermost when a row starts. -/
def isBodyContext (k : Kind) : Bool := k.isOneOf ["tbody", "tfoot", "thead", "template", "html"]

/-- Whether an element may be innermost when a cell starts. -/
def isRowContext (k : Kind) : Bool := k.isOneOf ["tr", "template", "html"]

/-- A start tag in a table. -/
def startInTable (b : Builder) (tag : Tag) : Outcome :=
  let token := Token.start tag
  let name := tag.name
  if name = "caption" then
    let b := b.popUntil isTableContext
    .done { b.openTag tag with formatting := .mark :: b.formatting, mode := .inCaption }
  else if name = "colgroup" then
    .done { (b.popUntil isTableContext).openTag tag with mode := .inColumns }
  else if name = "col" then
    .again .inColumns ((b.popUntil isTableContext).openNamed "colgroup") token
  else if ["tbody", "tfoot", "thead"].contains name then
    .done { (b.popUntil isTableContext).openTag tag with mode := .inTableBody }
  else if ["td", "th", "tr"].contains name then
    .again .inTableBody ((b.popUntil isTableContext).openNamed "tbody") token
  else if name = "table" then
    if b.hasInScope .table ["table"] then
      let b := b.popNamed "table"
      .again (b.modeOf b.stack) b token
    else .done b
  else if ["style", "script", "template"].contains name then .done (b.startHead tag)
  else if name = "input" then
    if isHiddenInput tag then .done (b.addVoid tag) else b.misplaced token
  else if name = "form" then
    if !b.isOpen "template" && b.form.isNone then
      let (id, b) := b.insertElement .html tag.name tag.attributes
      .done { b with form := some id }
    else .done b
  else b.misplaced token

/-- A token in a table. -/
def inTable (b : Builder) (token : Token) : Outcome :=
  match token with
  | .char _ => b.charInTable token
  | .comment => .done b
  | .start tag => b.startInTable tag
  | .stop name =>
      if name = "table" then
        .done (if b.hasInScope .table ["table"] then (b.popNamed "table").resetMode else b)
      else if ["body", "caption", "col", "colgroup", "html", "tbody", "td", "tfoot", "th", "thead",
          "tr"].contains name then .done b
      else if name = "template" then .done b.stopTemplate
      else b.misplaced token
  | .finish => .rules .inBody b token

/-- A token in the characters of a table: these are kept until something else comes, and count as
content in front of the table unless all of them are blank. -/
def inTableText (b : Builder) (token : Token) : Outcome :=
  match token with
  | .char c => .done (if c.toNat = 0 then b else { b with pending := c :: b.pending })
  | _ =>
      let content := b.pending.any fun c => !isSpace c
      let b := { b with pending := [] }
      let b :=
        if content then { reconstruct { b with fostering := true } with fostering := false } else b
      .again b.returnMode b token

/-- The start tags that end a caption. -/
def captionEnders : List String :=
  ["caption", "col", "colgroup", "tbody", "td", "tfoot", "th", "thead", "tr"]

/-- A token in a caption. -/
def inCaption (b : Builder) (token : Token) : Outcome :=
  let close (b : Builder) : Builder :=
    ((b.impliedEnds impliedEndNames).popNamed "caption").clearToMark
  match token with
  | .start tag =>
      if captionEnders.contains tag.name then
        if b.hasInScope .table ["caption"] then .again .inTable (close b) token else .done b
      else .rules .inBody b token
  | .stop name =>
      if name = "caption" then
        .done (if b.hasInScope .table ["caption"] then { close b with mode := .inTable } else b)
      else if name = "table" then
        if b.hasInScope .table ["caption"] then .again .inTable (close b) token else .done b
      else if ["body", "col", "colgroup", "html", "tbody", "td", "tfoot", "th", "thead",
          "tr"].contains name then .done b
      else .rules .inBody b token
  | _ => .rules .inBody b token

/-- A token in a group of columns. -/
def inColumns (b : Builder) (token : Token) : Outcome :=
  let leave : Outcome :=
    if b.currentIs "colgroup" then .again .inTable b.pop token else .done b
  match token with
  | .char c => if isSpace c then .done b else leave
  | .comment => .done b
  | .start tag =>
      if tag.name = "html" then .done b
      else if tag.name = "col" then .done (b.addVoid tag)
      else if tag.name = "template" then .done (b.startHead tag)
      else leave
  | .stop name =>
      if name = "colgroup" then
        .done (if b.currentIs "colgroup" then { b.pop with mode := .inTable } else b)
      else if name = "col" then .done b
      else if name = "template" then .done b.stopTemplate
      else leave
  | .finish => .rules .inBody b token

/-- A token in the body of a table. -/
def inTableBody (b : Builder) (token : Token) : Outcome :=
  let leave : Outcome :=
    if b.hasInScope .table ["table", "tbody", "tfoot"] then
      .again .inTable (b.popUntil isBodyContext).pop token
    else .done b
  match token with
  | .start tag =>
      if tag.name = "tr" then
        .done { (b.popUntil isBodyContext).openTag tag with mode := .inRow }
      else if ["th", "td"].contains tag.name then
        .again .inRow ((b.popUntil isBodyContext).openNamed "tr") token
      else if ["caption", "col", "colgroup", "tbody", "tfoot", "thead"].contains tag.name then leave
      else .rules .inTable b token
  | .stop name =>
      if ["tbody", "tfoot", "thead"].contains name then
        .done
          (if b.hasInScope .table [name] then
            { (b.popUntil isBodyContext).pop with mode := .inTable }
          else b)
      else if name = "table" then leave
      else if ["body", "caption", "col", "colgroup", "html", "td", "th", "tr"].contains name then
        .done b
      else .rules .inTable b token
  | _ => .rules .inTable b token

/-- A token in a row. -/
def inRow (b : Builder) (token : Token) : Outcome :=
  let close : Builder := (b.popUntil isRowContext).pop
  let leave : Outcome :=
    if b.hasInScope .table ["tr"] then .again .inTableBody close token else .done b
  match token with
  | .start tag =>
      if ["th", "td"].contains tag.name then
        let b := (b.popUntil isRowContext).openTag tag
        .done { b with mode := .inCell, formatting := .mark :: b.formatting }
      else if ["caption", "col", "colgroup", "tbody", "tfoot", "thead", "tr"].contains tag.name then
        leave
      else .rules .inTable b token
  | .stop name =>
      if name = "tr" then
        .done (if b.hasInScope .table ["tr"] then { close with mode := .inTableBody } else b)
      else if name = "table" then leave
      else if ["tbody", "tfoot", "thead"].contains name then
        if b.hasInScope .table [name] then leave else .done b
      else if ["body", "caption", "col", "colgroup", "html", "td", "th"].contains name then .done b
      else .rules .inTable b token
  | _ => .rules .inTable b token

/-- A token in a cell. -/
def inCell (b : Builder) (token : Token) : Outcome :=
  let close : Builder :=
    ((b.impliedEnds impliedEndNames).popThrough fun k => k.isOneOf ["td", "th"]).clearToMark
  match token with
  | .start tag =>
      if captionEnders.contains tag.name then
        if b.hasInScope .table ["td", "th"] then .again .inRow close token else .done b
      else .rules .inBody b token
  | .stop name =>
      if ["td", "th"].contains name then
        .done
          (if b.hasInScope .table [name] then
            { ((b.impliedEnds impliedEndNames).popNamed name).clearToMark with mode := .inRow }
          else b)
      else if ["body", "caption", "col", "colgroup", "html"].contains name then .done b
      else if ["table", "tbody", "tfoot", "thead", "tr"].contains name then
        if b.hasInScope .table [name] then .again .inRow close token else .done b
      else .rules .inBody b token
  | _ => .rules .inBody b token

end Builder
end Html
end LinkLedger

import LinkLedger.Html.Formatting

/-!
# Rules for content

What a token does where ordinary content stands.  A rule either settles the token, or hands it to
the rules of another mode, for good or for this token only.
-/

namespace LinkLedger
namespace Html

/-- What a rule makes of a token: it is done with, or is looked at again in another mode, or is
treated by the rules of a mode that is not entered. -/
inductive Outcome where
  | done (b : Builder)
  | again (mode : Mode) (b : Builder) (token : Token)
  | rules (mode : Mode) (b : Builder) (token : Token)

namespace Builder

/-- Whether a tag is that of a hidden input. -/
def isHiddenInput (tag : Tag) : Bool :=
  match tag.attribute? "type" with
  | some t => t.toList.map Char.toLower == "hidden".toList
  | none => false

/-! ## Elements that also stand in a head -/

/-- The elements that are treated alike in a head and in content. -/
def headNames : List String :=
  ["base", "basefont", "bgsound", "link", "meta", "noframes", "script", "style", "template",
    "title"]

/-- The start tag of an element of a head. -/
def startHead (b : Builder) (tag : Tag) : Builder :=
  if ["base", "basefont", "bgsound", "link", "meta"].contains tag.name then b.addVoid tag
  else if tag.name = "title" then b.openRaw tag (.characters "title")
  else if tag.name = "script" then b.openRaw tag .program
  else if tag.name = "template" then
    let b := b.openTag tag
    { b with
      formatting := .mark :: b.formatting
      mode := .inTemplate
      templateModes := .inTemplate :: b.templateModes }
  else b.openRaw tag (.characters tag.name)

/-- The mode that the open elements ask for, from the innermost one. -/
def modeOf (b : Builder) : List Nat → Mode
  | [] => .inBody
  | id :: rest =>
      let k := b.kind id
      if rest.isEmpty then .inBody
      else if k.is "select" then
        match rest.find? fun i => (b.kind i).isOneOf ["template", "table"] with
        | some i => if (b.kind i).is "table" then .inSelectInTable else .inSelect
        | none => .inSelect
      else if k.isOneOf ["td", "th"] then .inCell
      else if k.is "tr" then .inRow
      else if k.isOneOf ["tbody", "thead", "tfoot"] then .inTableBody
      else if k.is "caption" then .inCaption
      else if k.is "colgroup" then .inColumns
      else if k.is "table" then .inTable
      else if k.is "template" then b.templateModes.head?.getD .inBody
      else b.modeOf rest

/-- The state in the mode that the open elements ask for. -/
def resetMode (b : Builder) : Builder :=
  { b with mode := b.modeOf b.stack }

/-- The end tag of a template. -/
def stopTemplate (b : Builder) : Builder :=
  if b.isOpen "template" then
    let b := ((b.impliedEnds templateEndNames).popNamed "template").clearToMark
    { b with templateModes := b.templateModes.drop 1 }.resetMode
  else b

/-! ## Start tags -/

/-- The elements that a paragraph cannot hold and that have no other rule. -/
def blockNames : List String :=
  ["address", "article", "aside", "blockquote", "center", "details", "dialog", "dir", "div", "dl",
    "fieldset", "figcaption", "figure", "footer", "header", "hgroup", "main", "menu", "nav", "ol",
    "p", "section", "summary", "ul"]

/-- The formatting elements other than links and unbreakable parts. -/
def formattingNames : List String :=
  ["b", "big", "code", "em", "font", "i", "s", "small", "strike", "strong", "tt", "u"]

/-- The item of a list or of a description that a new item closes. -/
def itemToClose? (b : Builder) (names : List String) : List Nat → Option String
  | [] => none
  | id :: rest =>
      let k := b.kind id
      if k.isOneOf names then some k.name
      else if k.isSpecial && !k.isOneOf ["address", "div", "p"] then none
      else b.itemToClose? names rest

/-- The start tag of an item of a list or of a description. -/
def startItem (b : Builder) (tag : Tag) : Builder :=
  let names := if tag.name = "li" then ["li"] else ["dd", "dt"]
  let b :=
    match b.itemToClose? names b.stack with
    | some name => (b.impliedEndsExcept name).popNamed name
    | none => b
  b.closeOpenParagraph.openTag tag

/-- The start tag of a link: an open link ends there. -/
def startLink (b : Builder) (tag : Tag) : Builder :=
  let b :=
    match b.lastFormatting? "a" with
    | none => b
    | some (id, _) => ((b.adopt "a").dropFormatting id).dropOpen id
  b.reconstruct.openFormatting tag

/-- The start tag of an element of another vocabulary. -/
def startForeign (b : Builder) (vocabulary : Vocabulary) (tag : Tag) : Builder :=
  if tag.selfClosing then (b.insertElement vocabulary tag.name tag.attributes).2
  else b.openElement vocabulary tag

/-- The mode that the start tag of a selection enters. -/
def selectMode (mode : Mode) : Mode :=
  if [Mode.inTable, .inCaption, .inTableBody, .inRow, .inCell].contains mode then .inSelectInTable
  else .inSelect

/-- A start tag in content. -/
def startInBody (b : Builder) (tag : Tag) : Outcome :=
  let name := tag.name
  if headNames.contains name then .done (b.startHead tag)
  else if ["html", "body", "frameset"].contains name then .done b
  else if blockNames.contains name then .done (b.closeOpenParagraph.openTag tag)
  else if headingNames.contains name then
    let b := b.closeOpenParagraph
    .done ((if b.currentKind.isOneOf headingNames then b.pop else b).openTag tag)
  else if ["pre", "listing"].contains name then
    .done { b.closeOpenParagraph.openTag tag with skipLineFeed := true }
  else if name = "form" then
    let inTemplate := b.isOpen "template"
    if b.form.isSome && !inTemplate then .done b
    else
      let b := b.closeOpenParagraph.openTag tag
      .done (if inTemplate then b else { b with form := some b.current })
  else if ["li", "dd", "dt"].contains name then .done (b.startItem tag)
  else if name = "plaintext" then
    .done { b.closeOpenParagraph.openTag tag with holding := .everything }
  else if name = "button" then
    let b :=
      if b.hasInScope .default ["button"] then
        (b.impliedEnds impliedEndNames).popNamed "button"
      else b
    .done (b.reconstruct.openTag tag)
  else if name = "a" then .done (b.startLink tag)
  else if formattingNames.contains name then .done (b.reconstruct.openFormatting tag)
  else if name = "nobr" then
    let b := b.reconstruct
    let b := if b.hasInScope .default ["nobr"] then (b.adopt "nobr").reconstruct else b
    .done (b.openFormatting tag)
  else if ["applet", "marquee", "object"].contains name then
    let b := b.reconstruct.openTag tag
    .done { b with formatting := .mark :: b.formatting }
  else if name = "table" then
    .done { b.closeOpenParagraph.openTag tag with mode := .inTable }
  else if ["area", "br", "embed", "img", "keygen", "wbr", "input"].contains name then
    .done (b.reconstruct.addVoid tag)
  else if ["param", "source", "track"].contains name then .done (b.addVoid tag)
  else if name = "hr" then .done (b.closeOpenParagraph.addVoid tag)
  else if name = "image" then .done (b.reconstruct.addVoid { tag with name := "img" })
  else if name = "textarea" then
    .done { b.openRaw tag (.characters "textarea") with skipLineFeed := true }
  else if name = "xmp" then
    .done (b.closeOpenParagraph.reconstruct.openRaw tag (.characters "xmp"))
  else if ["iframe", "noembed", "noscript"].contains name then
    .done (b.openRaw tag (.characters name))
  else if name = "select" then
    let mode := selectMode b.mode
    .done { b.reconstruct.openTag tag with mode := mode }
  else if ["optgroup", "option"].contains name then
    .done ((if b.currentIs "option" then b.pop else b).reconstruct.openTag tag)
  else if ["rb", "rtc"].contains name then
    .done
      ((if b.hasInScope .default ["ruby"] then b.impliedEnds impliedEndNames else b).openTag tag)
  else if ["rp", "rt"].contains name then
    .done ((if b.hasInScope .default ["ruby"] then b.impliedEndsExcept "rtc" else b).openTag tag)
  else if name = "math" then .done (b.reconstruct.startForeign .math tag)
  else if name = "svg" then .done (b.reconstruct.startForeign .svg tag)
  else if ["caption", "col", "colgroup", "frame", "head", "tbody", "td", "tfoot", "th", "thead",
      "tr"].contains name then .done b
  else .done (b.reconstruct.openTag tag)

/-! ## End tags -/

/-- The elements that an end tag closes together with what is left open in them. -/
def closedNames : List String :=
  ["address", "article", "aside", "blockquote", "button", "center", "details", "dialog", "dir",
    "div", "dl", "fieldset", "figcaption", "figure", "footer", "header", "hgroup", "listing",
    "main", "menu", "nav", "ol", "pre", "section", "summary", "ul"]

/-- The end tag of a form. -/
def stopForm (b : Builder) : Builder :=
  if b.isOpen "template" then
    if b.hasInScope .default ["form"] then (b.impliedEnds impliedEndNames).popNamed "form" else b
  else
    match b.form with
    | none => b
    | some id =>
        let b := { b with form := none }
        if b.inScope .default (· == id) then (b.impliedEnds impliedEndNames).dropOpen id else b

/-- An end tag in content. -/
def stopInBody (b : Builder) (name : String) : Outcome :=
  if name = "template" then .done b.stopTemplate
  else if ["body", "html"].contains name then .done b
  else if closedNames.contains name then
    .done
      (if b.hasInScope .default [name] then (b.impliedEnds impliedEndNames).popNamed name else b)
  else if name = "form" then .done b.stopForm
  else if name = "p" then
    .done (if b.hasInScope .button ["p"] then b else b.openNamed "p").closeParagraph
  else if ["li", "dd", "dt"].contains name then
    let scope := if name = "li" then Scope.listItem else Scope.default
    .done (if b.hasInScope scope [name] then (b.impliedEndsExcept name).popNamed name else b)
  else if headingNames.contains name then
    .done
      (if b.hasInScope .default headingNames then
        (b.impliedEnds impliedEndNames).popThrough fun k => k.isOneOf headingNames
      else b)
  else if name = "a" || name = "nobr" || formattingNames.contains name then .done (b.adopt name)
  else if ["applet", "marquee", "object"].contains name then
    .done
      (if b.hasInScope .default [name] then
        ((b.impliedEnds impliedEndNames).popNamed name).clearToMark
      else b)
  else if name = "br" then b.startInBody ⟨"br", [], false⟩
  else .done (b.closeOther name)

/-- A token in content. -/
def inBody (b : Builder) (token : Token) : Outcome :=
  match token with
  | .char c => .done (if c.toNat = 0 then b else b.reconstruct)
  | .comment => .done b
  | .start tag => b.startInBody tag
  | .stop name => b.stopInBody name
  | .finish => if b.templateModes.isEmpty then .done b else .rules .inTemplate b token

/-- A token in an element that holds characters only. -/
def inRaw (b : Builder) (token : Token) : Outcome :=
  match token with
  | .stop _ => .done { b.pop with mode := b.returnMode, holding := .markup }
  | .finish => .again b.returnMode { b.pop with holding := .markup } token
  | _ => .done b

/-- A token in a template whose content has not shown what it is. -/
def inTemplate (b : Builder) (token : Token) : Outcome :=
  let enter (mode : Mode) : Outcome :=
    .again mode { b with templateModes := mode :: b.templateModes.drop 1 } token
  match token with
  | .char _ => .rules .inBody b token
  | .comment => .done b
  | .start tag =>
      if headNames.contains tag.name then .done (b.startHead tag)
      else if ["caption", "colgroup", "tbody", "tfoot", "thead"].contains tag.name then
        enter .inTable
      else if tag.name = "col" then enter .inColumns
      else if tag.name = "tr" then enter .inTableBody
      else if ["td", "th"].contains tag.name then enter .inRow
      else enter .inBody
  | .stop name => .done (if name = "template" then b.stopTemplate else b)
  | .finish =>
      if b.isOpen "template" then
        let b := (b.popNamed "template").clearToMark
        let b := { b with templateModes := b.templateModes.drop 1 }
        .again (b.modeOf b.stack) b token
      else .done b

/-! ## Selections -/

/-- A token in a selection. -/
def inSelect (b : Builder) (token : Token) : Outcome :=
  match token with
  | .start tag =>
      let name := tag.name
      if name = "option" then .done ((if b.currentIs "option" then b.pop else b).openTag tag)
      else if name = "optgroup" then
        let b := if b.currentIs "option" then b.pop else b
        .done ((if b.currentIs "optgroup" then b.pop else b).openTag tag)
      else if name = "select" then
        .done
          (if b.hasInScope .select ["select"] then (b.popNamed "select").resetMode else b)
      else if ["input", "keygen", "textarea"].contains name then
        if b.hasInScope .select ["select"] then
          let b := b.popNamed "select"
          .again (b.modeOf b.stack) b token
        else .done b
      else if ["script", "template"].contains name then .done (b.startHead tag)
      else .done b
  | .stop name =>
      if name = "optgroup" then
        let outer := b.stack.drop 1 |>.head?.getD 0
        let b := if b.currentIs "option" && (b.kind outer).is "optgroup" then b.pop else b
        .done (if b.currentIs "optgroup" then b.pop else b)
      else if name = "option" then .done (if b.currentIs "option" then b.pop else b)
      else if name = "select" then
        .done
          (if b.hasInScope .select ["select"] then (b.popNamed "select").resetMode else b)
      else if name = "template" then .done b.stopTemplate
      else .done b
  | .finish => .rules .inBody b token
  | _ => .done b

/-- The parts of a table that end a selection in it. -/
def selectEnders : List String :=
  ["caption", "table", "tbody", "tfoot", "thead", "tr", "td", "th"]

/-- A token in a selection in a table. -/
def inSelectInTable (b : Builder) (token : Token) : Outcome :=
  let leave : Outcome :=
    let b := b.popNamed "select"
    .again (b.modeOf b.stack) b token
  match token with
  | .start tag => if selectEnders.contains tag.name then leave else .rules .inSelect b token
  | .stop name =>
      if selectEnders.contains name then
        if b.hasInScope .table [name] then leave else .done b
      else .rules .inSelect b token
  | _ => .rules .inSelect b token

end Builder
end Html
end LinkLedger

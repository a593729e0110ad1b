import LinkLedger.Markdown.Scan

/-!
# HTML in Markdown

How much of a text is a piece of HTML: a tag, a comment, a processing instruction, a declaration or
a section of character data within a line, and the starts of blocks of HTML.
-/

namespace LinkLedger
namespace Markdown

/-! ## A walk through a tag -/

/-- What the blanks and marks in front of a line take, by the text of the line; `none` where a tag
may not go over to another line. -/
abbrev Margin := Option (List Char → Nat)

/-- A place inside a tag: the text from there on, the number of characters in front of it, those of
them that belong to the tag, last one first, and whether margins were left out. -/
structure Place where
  rest : List Char
  taken : Nat
  kept : List Char
  cut : Bool

namespace Place

/-- The place in front of a text. -/
def ofText (cs : List Char) : Place := ⟨cs, 0, [], false⟩

/-- Goes on by `n` characters. -/
def step (p : Place) (n : Nat) : Place :=
  ⟨p.rest.drop n, p.taken + n, (p.rest.take n).reverse ++ p.kept, p.cut⟩

/-- Goes on by the characters that satisfy a condition. -/
def skipWhile (p : Place) (q : Char → Bool) : Place :=
  p.step (countWhile q p.rest)

/-- Goes over a line end and the margin of the next line. -/
def nextLine? (margin : Margin) (p : Place) : Option Place := do
  let width ← margin
  let n ← lineEnd? p.rest
  let q := p.step n
  let m := width q.rest
  some ⟨q.rest.drop m, q.taken + m, q.kept, q.cut || m != 0⟩

/-- Whether a line ends here, in front of the end of the text. -/
def atLineEnd (p : Place) : Bool :=
  match p.rest with
  | c :: _ => c = '\n' || c = '\r'
  | [] => false

/-- Goes on by blanks and line ends. -/
def skipBlanks (margin : Margin) : Nat → Place → Option Place
  | 0, p => some p
  | fuel + 1, p =>
      if p.atLineEnd then (p.nextLine? margin).bind (skipBlanks margin fuel)
      else if (p.rest.head?.any isBlank) = true then skipBlanks margin fuel (p.step 1)
      else some p

/-- Goes on behind the closing quotation mark. -/
def skipQuoted (margin : Margin) (mark : Char) : Nat → Place → Option Place
  | 0, _ => none
  | fuel + 1, p =>
      if p.atLineEnd then (p.nextLine? margin).bind (skipQuoted margin mark fuel)
      else
        match p.rest with
        | [] => none
        | c :: _ => if c = mark then some (p.step 1) else skipQuoted margin mark fuel (p.step 1)

end Place

/-- The characters that end the value of an attribute without quotation marks. -/
def endsValue (c : Char) : Bool :=
  c = '\'' || c = '"' || c = ' ' || c = '=' || c = '>' || c = '<' || c = '\x60' || c = '\n' ||
    c = '\r'

/-- Goes over the value of an attribute. -/
def skipValue (margin : Margin) (p : Place) : Option Place :=
  match p.rest with
  | [] => none
  | c :: rest =>
      if c = '"' ∨ c = '\'' then (p.step 1).skipQuoted margin c (rest.length + 1)
      else if endsValue c then none
      else some (p.skipWhile fun d => !endsValue d)

/-- Goes over an attribute. -/
def skipAttribute (margin : Margin) (p : Place) : Option Place :=
  match p.rest with
  | [] => none
  | c :: rest =>
      if c.isAlpha ∨ c = '_' ∨ c = ':' then do
        let named := (p.step 1).skipWhile fun d =>
          d.isAlphanum || d = '_' || d = '.' || d = ':' || d = '-'
        let next ← named.skipBlanks margin rest.length
        if next.rest.head? = some '=' then do
          let value ← (next.step 1).skipBlanks margin rest.length
          skipValue margin value
        else some named
      else none

/-- Goes over attributes up to the slash or bracket behind them. -/
def skipAttributes (margin : Margin) : Nat → Place → Option Place
  | 0, _ => none
  | fuel + 1, p => do
      let next ← p.skipBlanks margin p.rest.length
      if next.rest.head? = some '/' ∨ next.rest.head? = some '>' then some next
      else if next.taken = p.taken then none
      else do
        let behind ← skipAttribute margin next
        skipAttributes margin fuel behind

/-- The place behind the tag at the start of a text, whose first character is not looked at. -/
def tag? (margin : Margin) (cs : List Char) : Option Place := do
  let opened := (Place.ofText cs).step 1
  let closing : Bool := opened.rest.head? = some '/'
  let name := if closing then opened.step 1 else opened
  if (name.rest.head?.any Char.isAlpha) = true then
    let named := (name.skipWhile Char.isAlpha).skipWhile fun c => c.isAlphanum || c = '-'
    let behind ← if closing then some named else skipAttributes margin (cs.length + 1) named
    let blank := behind.skipWhile isInnerBlank
    let last := if !closing && blank.rest.head? = some '/' then blank.step 1 else blank
    if last.rest.head? = some '>' then some (last.step 1) else none
  else none

/-! ## Other pieces within a line -/

/-- The length of the rest of a comment behind its first two hyphens and the further ones; two
hyphens in a row end it and have to stand before a bracket. -/
def commentRest? : List Char → Option Nat
  | '-' :: '-' :: '>' :: _ => some 3
  | '-' :: '-' :: _ => none
  | _ :: cs => (commentRest? cs).map (1 + ·)
  | [] => none

/-- The length of a text up to and with the end of a processing instruction. -/
def instructionRest? : List Char → Option Nat
  | '?' :: '>' :: _ => some 2
  | _ :: cs => (instructionRest? cs).map (1 + ·)
  | [] => none

/-- The length of what an exclamation mark starts behind an opening bracket, without the mark: a
comment, character data or a declaration. -/
def declaration? (cs : List Char) : Option Nat :=
  match cs with
  | '-' :: rest =>
      let dashes := countChar '-' rest
      let behind := rest.drop dashes
      if dashes = 0 ∨ behind.head? = some '>' then none
      else (commentRest? behind).map (1 + dashes + ·)
  | '[' :: rest =>
      match "CDATA[".toList.isPrefixOf? rest with
      | none => none
      | some data =>
          let n := countWhile (· != ']') data
          let brackets := countChar ']' (data.drop n)
          if brackets ≠ 0 ∧ (data.drop (n + brackets)).head? = some '>' then
            some (7 + n + brackets + 1)
          else none
  | c :: _ =>
      if c.isUpper then
        let name := countWhile Char.isUpper cs
        let blanks := countWhile isBlank (cs.drop name)
        let rest := cs.drop (name + blanks)
        let n := countWhile (· != '>') rest
        if blanks ≠ 0 ∧ (rest.drop n).head? = some '>' then some (name + blanks + n + 1) else none
      else none
  | [] => none

/-! ## Blocks of HTML -/

/-- The elements whose blocks go on to their end tag. -/
def rawElements : List String := ["pre", "style", "script", "textarea"]

/-- The text that ends a block of HTML that starts, behind its bracket, with a text, where such a
block may have blank lines in it. -/
def blockEnd? (cs : List Char) : Option (List Char) :=
  let raw := rawElements.find? fun name =>
    let n := name.length
    (cs.take n).map Char.toLower = name.toList ∧
      ((cs.drop n).head?.all fun c => isBlank c || c = '>') = true
  match raw with
  | some name => some ("</" ++ name ++ ">").toList
  | none =>
      if "!--".toList.isPrefixOf cs then some "-->".toList
      else if "?".toList.isPrefixOf cs then some "?>".toList
      else if "![CDATA[".toList.isPrefixOf cs then some "]]>".toList
      else
        match cs with
        | '!' :: c :: _ => if c.isUpper then some [ '>' ] else none
        | _ => none

/-- The elements whose tags start a block of HTML. -/
def blockElements : List String :=
  ["address", "article", "aside", "base", "basefont", "blockquote", "body", "caption", "center",
    "col", "colgroup", "dd", "details", "dialog", "dir", "div", "dl", "dt", "fieldset",
    "figcaption", "figure", "footer", "form", "frame", "frameset", "h1", "h2", "h3", "h4", "h5",
    "h6", "head", "header", "hr", "html", "iframe", "legend", "li", "link", "main", "menu",
    "menuitem", "nav", "noframes", "ol", "optgroup", "option", "p", "param", "section", "source",
    "summary", "table", "tbody", "td", "tfoot", "th", "thead", "title", "tr", "track", "ul"]

/-- Whether a text, behind its bracket, starts with the name of such an element. -/
def startsBlockElement (cs : List Char) : Bool :=
  let name := (if cs.head? = some '/' then cs.drop 1 else cs).takeWhile Char.isAlphanum
  blockElements.contains (String.ofList (name.map Char.toLower))

/-- Whether a text starts with a tag that has its line for itself. -/
def isLoneTag (cs : List Char) : Bool :=
  match tag? none cs with
  | some p => isBlankLine p.rest
  | none => false

end Markdown
end LinkLedger

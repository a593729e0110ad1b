import LinkLedger.Html.Element

/-!
# Sets of element names

The groups of elements that the rules for building a tree treat alike, and the elements at which a
search through the open elements ends.
-/

namespace LinkLedger
namespace Html

/-- What an element is for the rules: its vocabulary and its name. -/
structure Kind where
  vocabulary : Vocabulary
  name : String
  deriving DecidableEq, Repr, Inhabited

/-- Whether an element is an HTML element with one of some names. -/
def Kind.isOneOf (k : Kind) (names : List String) : Bool :=
  k.vocabulary == .html && names.contains k.name

/-- Whether an element is the HTML element of a name. -/
def Kind.is (k : Kind) (name : String) : Bool :=
  k.vocabulary == .html && k.name == name

/-- The elements of formulas that hold text. -/
def Kind.isMathText (k : Kind) : Bool :=
  k.vocabulary == .math && ["mi", "mo", "mn", "ms", "mtext"].contains k.name

/-- The elements of drawings that hold HTML. -/
def Kind.isSvgHolder (k : Kind) : Bool :=
  k.vocabulary == .svg && ["foreignobject", "desc", "title"].contains k.name

/-- The elements that end a paragraph or may not stand in one, and those with rules of their own. -/
def specialNames : List String :=
  ["address", "applet", "area", "article", "aside", "base", "basefont", "bgsound", "blockquote",
    "body", "br", "button", "caption", "center", "col", "colgroup", "dd", "details", "dir", "div",
    "dl", "dt", "embed", "fieldset", "figcaption", "figure", "footer", "form", "frame", "frameset",
    "h1", "h2", "h3", "h4", "h5", "h6", "head", "header", "hgroup", "hr", "html", "iframe", "img",
    "input", "isindex", "li", "link", "listing", "main", "marquee", "menu", "meta", "nav",
    "noembed", "noframes", "noscript", "object", "ol", "p", "param", "plaintext", "pre", "script",
    "section", "select", "source", "style", "summary", "table", "tbody", "td", "template",
    "textarea", "tfoot", "th", "thead", "title", "tr", "track", "ul", "wbr", "xmp"]

/-- Whether an element is special. -/
def Kind.isSpecial (k : Kind) : Bool := k.isOneOf specialNames

/-- The headings. -/
def headingNames : List String := ["h1", "h2", "h3", "h4", "h5", "h6"]

/-- The elements whose end tag may be left out at the end of what holds them. -/
def impliedEndNames : List String :=
  ["dd", "dt", "li", "option", "optgroup", "p", "rb", "rp", "rt", "rtc"]

/-- The elements whose end tag may be left out at the end of a template. -/
def templateEndNames : List String :=
  impliedEndNames ++ ["caption", "colgroup", "tbody", "td", "tfoot", "th", "thead", "tr"]

/-- Ways of searching the open elements from the innermost one outwards. -/
inductive Scope where
  | default
  | listItem
  | button
  | table
  | select
  deriving DecidableEq, Repr

/-- The elements at which a search of any scope but that of tables and lists of options ends. -/
def Kind.endsDefault (k : Kind) : Bool :=
  k.isOneOf
      ["applet", "caption", "html", "table", "td", "th", "marquee", "object", "template"] ||
    k.isMathText || k.isSvgHolder

/-- Whether a search ends at an element. -/
def Scope.endsAt : Scope → Kind → Bool
  | .default, k => k.endsDefault
  | .listItem, k => k.endsDefault || k.isOneOf ["ol", "ul"]
  | .button, k => k.endsDefault || k.is "button"
  | .table, k => k.isOneOf ["html", "table", "template"]
  | .select, k => !k.isOneOf ["optgroup", "option"]

end Html
end LinkLedger

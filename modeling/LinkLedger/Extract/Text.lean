import LinkLedger.Extract.Markup
import LinkLedger.Markdown.Inline

/-!
# Links in Markdown

Links are the addresses of Markdown links and images, in the order of the text, followed by those of
the HTML in it.
-/

namespace LinkLedger
namespace Extract

open Html Markdown Text

/-- The address of a link or an image, if its category is on. -/
def addressOf (on : Categories) : Piece → Option (List Char)
  | .link address => if on.anchors then some address else none
  | .image address => if on.images then some address else none
  | .markup _ => none

/-- The HTML of a piece. -/
def markupOf : Piece → List Char
  | .markup text => text
  | _ => []

/-- The links in a text of Markdown, by what reads its pieces and the tree of its HTML. -/
def markdownBy (tree : List Char → Element) (split : List Char → List Piece) (on : Categories)
    (text : String) : List String :=
  let found := split text.toList
  let addresses := (found.filterMap (addressOf on)).map String.ofList
  let markup := found.flatMap markupOf
  let inMarkup := if markup.isEmpty then [] else htmlBy tree on (String.ofList markup)
  unique ((addresses ++ inMarkup).filter fun link => !isBlankText link.toList)

/-- The links in a text of Markdown. -/
def markdown (on : Categories) (text : String) : List String :=
  markdownBy fragment pieces on text

end Extract
end LinkLedger

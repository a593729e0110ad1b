import LinkLedger.Extract.Unique
import LinkLedger.Html.Fragment
import LinkLedger.Settings.Basic

/-!
# Links in HTML

Links are the values of certain attributes of certain elements, in categories that can be switched
on and off.  They are collected category by category, within a category element by element in the
order in which the elements came into being, and as they are written, without blanks around them.
-/

namespace LinkLedger
namespace Extract

open Html Text

/-- The value of an attribute without blanks around it, if there is such a value. -/
def linkOf (e : Element) (name : String) : Option String :=
  match e.attribute? name with
  | none => none
  | some value =>
      let link := trimmed value
      if link.isEmpty then none else some link

/-- The values of attributes of an element. -/
def linksOf (e : Element) (attributes : List String) : List String :=
  attributes.filterMap (linkOf e)

/-- The names of parameters that carry a link. -/
def linkParameters : List String :=
  ["archive", "filename", "href", "movie", "src", "url"]

/-- Whether a parameter of an object carries a link. -/
def carriesLink (e : Element) : Bool :=
  (match e.attribute? "name" with
    | some name => linkParameters.contains name
    | none => false) ||
    e.attribute? "src" == some "movie"

/-- The links of an element and of the sources and tracks below it. -/
def mediaLinks (attributes : List String) (e : Element) : List String :=
  linksOf e attributes ++
    (e.descendants.filter fun d => ["source", "track"].contains d.name).flatMap
      fun d => linksOf d ["src"]

/-- The links of an object and of the parameters below it that carry one. -/
def objectLinks (e : Element) : List String :=
  linksOf e ["data", "codebase"] ++
    (e.descendants.filter fun d => d.name == "param" && carriesLink d).flatMap
      fun d => linksOf d ["value"]

/-- A category of elements: whether it is on, the names of its elements, and their links. -/
structure Category where
  enabled : Categories → Bool
  names : List String
  links : Element → List String

/-- All categories in the order in which they are collected. -/
def categories : List Category :=
  [⟨(·.anchors), ["a", "area"], fun e => linksOf e ["href"]⟩,
    ⟨(·.audio), ["audio"], mediaLinks ["src"]⟩,
    ⟨(·.embeds), ["embed"], fun e => linksOf e ["src", "pluginurl", "pluginspage"]⟩,
    ⟨(·.frames), ["iframe"], fun e => linksOf e ["src"]⟩,
    ⟨(·.images), ["img"], fun e => linksOf e ["src", "longdesc"]⟩,
    ⟨(·.objects), ["object"], objectLinks⟩,
    ⟨(·.videos), ["video"], mediaLinks ["poster", "src"]⟩]

/-- The elements below the root of a fragment, in the order in which they came into being. -/
def elementsOf (root : Element) : List Element :=
  root.descendants.mergeSort fun d e => decide (d.number ≤ e.number)

/-- The links of a category among some elements. -/
def Category.collect (c : Category) (elements : List Element) : List String :=
  (elements.filter fun e => c.names.contains e.name).flatMap c.links

/-- The links of a fragment in the categories that are on. -/
def linksInTree (on : Categories) (root : Element) : List String :=
  let elements := elementsOf root
  unique ((categories.filter fun c => c.enabled on).flatMap fun c => c.collect elements)

/-- The links in a text of HTML, by what reads the tree of a text. -/
def htmlBy (tree : List Char → Element) (on : Categories) (text : String) : List String :=
  if isBlankText text.toList then [] else linksInTree on (tree text.toList)

/-- The links in a text of HTML. -/
def html (on : Categories) (text : String) : List String :=
  htmlBy fragment on text

/-- The link in the value of a link field, which is the link itself. -/
def link (value : String) : List String :=
  let l := trimmed value
  if l.isEmpty then [] else [l]

end Extract
end LinkLedger

/-!
# Trees of elements

The elements of a fragment form a tree.  Every element also carries its number in the order in which
the elements came into being, which differs from the order of the document where an element was
placed in front of an older one.

**Results.**
* `Element.listing_eq`: the listing of an element is the element and the listings of its children.
-/

namespace LinkLedger
namespace Html

/-- The vocabulary that an element belongs to. -/
inductive Vocabulary where
  | html
  | svg
  | math
  deriving DecidableEq, Repr, Inhabited

/-- An element: its number, vocabulary, name in lower case, attributes and children. -/
inductive Element where
  | node (number : Nat) (vocabulary : Vocabulary) (name : String)
      (attributes : List (String × String)) (children : List Element)
  deriving Repr, Inhabited

namespace Element

/-- The number of an element in the order of coming into being. -/
def number : Element → Nat
  | node n _ _ _ _ => n

/-- The name of an element. -/
def name : Element → String
  | node _ _ name _ _ => name

/-- The attributes of an element. -/
def attributes : Element → List (String × String)
  | node _ _ _ attributes _ => attributes

/-- The children of an element. -/
def children : Element → List Element
  | node _ _ _ _ children => children

/-- The value of an attribute. -/
def attribute? (e : Element) (name : String) : Option String :=
  e.attributes.lookup name

mutual

/-- An element and everything below it, in the order of the document. -/
def listing : Element → List Element
  | node n v name attributes children =>
      node n v name attributes children :: listingOf children

/-- The listings of elements, one behind the other. -/
def listingOf : List Element → List Element
  | [] => []
  | e :: es => listing e ++ listingOf es

end

/-- Everything below an element, in the order of the document. -/
def descendants (e : Element) : List Element :=
  listingOf e.children

theorem listing_eq (e : Element) : e.listing = e :: e.descendants := by
  cases e
  simp [listing, descendants, children]

@[simp] theorem listingOf_nil : listingOf [] = [] := by
  simp [listingOf]

@[simp] theorem listingOf_cons (e : Element) (es : List Element) :
    listingOf (e :: es) = listing e ++ listingOf es := by
  simp [listingOf]

end Element

end Html
end LinkLedger

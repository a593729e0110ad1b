import LinkLedger.Html.Reference

/-!
# Tags

A tag is read from behind its opening bracket: name, attributes, and whether a slash closes it at
once.  Names are in lower case, and of two attributes of one name the first counts.  A tag that the
text cuts off is no tag.
-/

namespace LinkLedger
namespace Html

/-- A tag: name, attributes in their order, and whether it is closed at once. -/
structure Tag where
  name : String
  attributes : List (String × String)
  selfClosing : Bool
  deriving DecidableEq, Repr, Inhabited

/-- The blanks of HTML. -/
def isSpace (c : Char) : Bool :=
  c = ' ' || c = '\n' || c = '\t' || c = '\r' || c.toNat = 12

/-- A character of a name: letters in lower case, and never the null character. -/
def nameCharacter (c : Char) : Char :=
  if c.toNat = 0 then replacement else c.toLower

/-- The letters A to Z, of both cases. -/
def isLetter (c : Char) : Bool := c.isAlpha

/-- Reads the value of an attribute up to a character that ends it; `fuel` bounds the number of
characters. -/
def readValue (ends : Char → Bool) : Nat → List Char → Option (List Char × List Char)
  | 0, _ => none
  | _ + 1, [] => none
  | fuel + 1, c :: cs =>
      if ends c then some ([], c :: cs)
      else if c = '&' then
        match readReference true cs with
        | some (chars, rest) =>
            (readValue ends fuel rest).map fun (v, r) => (chars ++ v, r)
        | none => (readValue ends fuel cs).map fun (v, r) => ('&' :: v, r)
      else
        (readValue ends fuel cs).map fun (v, r) =>
          ((if c.toNat = 0 then replacement else c) :: v, r)

/-- Reads the value of an attribute from behind the equals sign. -/
def readAttributeValue (cs : List Char) : Option (List Char × List Char) :=
  match cs.dropWhile isSpace with
  | [] => none
  | '"' :: r =>
      (readValue (· == '"') (r.length + 1) r).map fun (v, rest) => (v, rest.drop 1)
  | '\'' :: r =>
      (readValue (· == '\'') (r.length + 1) r).map fun (v, rest) => (v, rest.drop 1)
  | '>' :: r => some ([], '>' :: r)
  | r => readValue (fun c => isSpace c || c = '>') (r.length + 1) r

/-- Whether a character ends the name of an attribute. -/
def endsName (c : Char) : Bool :=
  isSpace c || c = '/' || c = '>' || c = '='

/-- Adds an attribute unless its name is taken. -/
def addAttribute (attributes : List (String × String)) (name value : List Char) :
    List (String × String) :=
  let name := String.ofList (name.map nameCharacter)
  if attributes.any fun a => a.1 == name then attributes
  else attributes ++ [(name, String.ofList value)]

/-- Reads the attributes of a tag up to its closing bracket. -/
def readAttributes :
    Nat → List (String × String) → List Char → Option (List (String × String) × Bool × List Char)
  | 0, _, _ => none
  | _ + 1, _, [] => none
  | fuel + 1, attributes, c :: cs =>
      if isSpace c then readAttributes fuel attributes cs
      else if c = '>' then some (attributes, false, cs)
      else if c = '/' then
        match cs with
        | '>' :: r => some (attributes, true, r)
        | _ => readAttributes fuel attributes cs
      else
        let name := c :: cs.takeWhile fun d => !endsName d
        let rest := cs.dropWhile fun d => !endsName d
        match rest.dropWhile isSpace with
        | '=' :: r =>
            match readAttributeValue r with
            | none => none
            | some (value, rest) =>
                readAttributes fuel (addAttribute attributes name value) rest
        | rest => readAttributes fuel (addAttribute attributes name []) rest

/-- Reads a tag from its name on. -/
def readTag (cs : List Char) : Option (Tag × List Char) :=
  let ends (c : Char) : Bool := isSpace c || c = '/' || c = '>'
  let name := cs.takeWhile fun c => !ends c
  let rest := cs.dropWhile fun c => !ends c
  (readAttributes (rest.length + 1) [] rest).map fun (attributes, closed, r) =>
    (⟨String.ofList (name.map nameCharacter), attributes, closed⟩, r)

/-- The value of an attribute. -/
def Tag.attribute? (t : Tag) (name : String) : Option String :=
  t.attributes.lookup name

end Html
end LinkLedger

import LinkLedger.Html.Tag

/-!
# Tokens of HTML

A text is read as start tags, end tags, characters and comments.  How it is read depends on the
element around: some elements hold characters only, up to their own end tag.
-/

namespace LinkLedger
namespace Html

/-- A token. -/
inductive Token where
  | start (tag : Tag)
  | stop (name : String)
  | char (c : Char)
  | comment
  | finish
  deriving DecidableEq, Repr, Inhabited

/-- What may stand in the element around. -/
inductive Holding where
  /-- Anything. -/
  | markup
  /-- Characters up to the end tag of that name. -/
  | characters (name : String)
  /-- A program up to the end tag `script`; comments may hide that tag. -/
  | program
  /-- Characters to the end of the text. -/
  | everything
  deriving DecidableEq, Repr, Inhabited

/-- The text behind a comment, from behind its opening; `dashes` counts the dashes just read, up to
two, and `bang` tells that an exclamation mark stands behind them. -/
def skipComment : (dashes : Nat) → (bang : Bool) → List Char → List Char
  | _, _, [] => []
  | dashes, bang, c :: cs =>
      if bang then
        if c = '>' then cs
        else if c = '-' then skipComment 1 false cs
        else skipComment 0 false cs
      else if c = '-' then skipComment (min (dashes + 1) 2) false cs
      else if c = '>' ∧ dashes = 2 then cs
      else if c = '!' ∧ dashes = 2 then skipComment 2 true cs
      else skipComment 0 false cs

/-- The text behind a comment, from behind its two opening dashes: a closing bracket there, or
behind one more dash, ends it at once. -/
def afterComment : List Char → List Char
  | '>' :: rest => rest
  | '-' :: '>' :: rest => rest
  | '-' :: '-' :: rest => skipComment 2 false rest
  | cs => skipComment 0 false cs

/-- The text behind the next closing bracket. -/
def afterBracket (cs : List Char) : List Char :=
  (cs.dropWhile (· != '>')).drop 1

/-- The text behind the marked section that starts a text, and its characters. -/
def splitSection : List Char → List Char × List Char
  | [] => ([], [])
  | ']' :: ']' :: '>' :: rest => ([], rest)
  | c :: cs =>
      let (inside, rest) := splitSection cs
      (c :: inside, rest)

/-- The text behind `name` if a text starts with it, letters of either case. -/
def stripName? (name cs : List Char) : Option (List Char) :=
  if (cs.take name.length).map Char.toLower = name then some (cs.drop name.length) else none

/-- Whether a text ends the name of a tag. -/
def endsTagName : List Char → Bool
  | c :: _ => isSpace c || c = '/' || c = '>'
  | [] => false

/-- The text behind the name of the first end tag `name`, `none` if there is no such tag. -/
def findEnd? (name : List Char) : List Char → Option (List Char)
  | [] => none
  | c :: cs =>
      match c, cs with
      | '<', '/' :: r =>
          match stripName? name r with
          | some rest => if endsTagName rest then some rest else findEnd? name cs
          | none => findEnd? name cs
      | _, _ => findEnd? name cs

/-- Where a program stands: outside a comment, in a comment, or in a comment behind a start tag
`script`; in a comment, the number of dashes just read, up to two. -/
inductive Program where
  | outside
  | hidden (dashes : Nat)
  | twiceHidden (dashes : Nat)
  deriving DecidableEq, Repr

/-- The text behind the name of the end tag that closes a program. -/
def findProgramEnd? : Nat → Program → List Char → Option (List Char)
  | 0, _, _ => none
  | _ + 1, _, [] => none
  | fuel + 1, .outside, c :: cs =>
      match c, cs with
      | '<', '/' :: r =>
          match stripName? "script".toList r with
          | some rest =>
              if endsTagName rest then some rest else findProgramEnd? fuel .outside r
          | none => findProgramEnd? fuel .outside r
      | '<', '!' :: '-' :: '-' :: r => findProgramEnd? fuel (.hidden 2) r
      | _, _ => findProgramEnd? fuel .outside cs
  | fuel + 1, .hidden dashes, c :: cs =>
      if c = '-' then findProgramEnd? fuel (.hidden (min (dashes + 1) 2)) cs
      else if c = '>' ∧ dashes = 2 then findProgramEnd? fuel .outside cs
      else if c = '<' then
        match cs with
        | '/' :: r =>
            match stripName? "script".toList r with
            | some rest =>
                if endsTagName rest then some rest else findProgramEnd? fuel (.hidden 0) r
            | none => findProgramEnd? fuel (.hidden 0) r
        | _ =>
            match stripName? "script".toList cs with
            | some rest =>
                if endsTagName rest then findProgramEnd? fuel (.twiceHidden 0) (rest.drop 1)
                else findProgramEnd? fuel (.hidden 0) cs
            | none => findProgramEnd? fuel (.hidden 0) cs
      else findProgramEnd? fuel (.hidden 0) cs
  | fuel + 1, .twiceHidden dashes, c :: cs =>
      if c = '-' then findProgramEnd? fuel (.twiceHidden (min (dashes + 1) 2)) cs
      else if c = '>' ∧ dashes = 2 then findProgramEnd? fuel .outside cs
      else if c = '<' then
        match cs with
        | '/' :: r =>
            match stripName? "script".toList r with
            | some rest =>
                if endsTagName rest then findProgramEnd? fuel (.hidden 0) (rest.drop 1)
                else findProgramEnd? fuel (.twiceHidden 0) r
            | none => findProgramEnd? fuel (.twiceHidden 0) r
        | _ => findProgramEnd? fuel (.twiceHidden 0) cs
      else findProgramEnd? fuel (.twiceHidden 0) cs

/-- Reads the end tag whose name has been read. -/
def closeTag (name : String) (cs : List Char) : List Token × List Char :=
  match readAttributes (cs.length + 1) [] cs with
  | some (_, _, rest) => ([.stop name], rest)
  | none => ([], [])

/-- Reads a comment, a marked section or a declaration, from behind `<!`.  A document type
declaration gives no token. -/
def readDeclaration (foreign : Bool) (cs : List Char) : List Token × List Char :=
  match cs with
  | '-' :: '-' :: r => ([.comment], afterComment r)
  | _ =>
      match (if foreign then "[CDATA[".toList.isPrefixOf? cs else none) with
      | some r =>
          let (inside, rest) := splitSection r
          (inside.map .char, rest)
      | none =>
          match stripName? "doctype".toList cs with
          | some r => ([], afterBracket r)
          | none => ([.comment], afterBracket cs)

/-- Reads the next tokens of a text that is not empty.  `foreign` tells that the element around is
no HTML element. -/
def nextTokens (holding : Holding) (foreign : Bool) (cs : List Char) : List Token × List Char :=
  match holding with
  | .everything => (cs.map fun c => .char (if c.toNat = 0 then replacement else c), [])
  | .characters name =>
      match findEnd? name.toList cs with
      | some rest => closeTag name rest
      | none => ([], [])
  | .program =>
      match findProgramEnd? (cs.length + 1) .outside cs with
      | some rest => closeTag "script" rest
      | none => ([], [])
  | .markup =>
      match cs with
      | [] => ([], [])
      | '&' :: r =>
          match readReference false r with
          | some (chars, rest) => (chars.map .char, rest)
          | none => ([.char '&'], r)
      | '<' :: '!' :: r => readDeclaration foreign r
      | '<' :: '?' :: r => ([.comment], afterBracket r)
      | '<' :: '/' :: r =>
          match r with
          | [] => ([.char '<', .char '/'], [])
          | '>' :: rest => ([], rest)
          | c :: _ =>
              if isLetter c then
                match readTag r with
                | some (tag, rest) => ([.stop tag.name], rest)
                | none => ([], [])
              else ([.comment], afterBracket r)
      | '<' :: r =>
          match r with
          | c :: _ =>
              if isLetter c then
                match readTag r with
                | some (tag, rest) => ([.start tag], rest)
                | none => ([], [])
              else ([.char '<'], r)
          | [] => ([.char '<'], [])
      | c :: r => ([.char c], r)

/-- A text with line feeds as only line ends and without a byte order mark at its start. -/
def normalizeLines : List Char → List Char
  | [] => []
  | '\r' :: '\n' :: rest => '\n' :: normalizeLines rest
  | c :: rest => (if c = '\r' then '\n' else c) :: normalizeLines rest

/-- A text as it is read. -/
def inputOf (cs : List Char) : List Char :=
  normalizeLines (if cs.head? = some '\ufeff' then cs.drop 1 else cs)

end Html
end LinkLedger
